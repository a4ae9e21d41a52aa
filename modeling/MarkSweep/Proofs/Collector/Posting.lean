import MarkSweep.Proofs.Collector.Frame

/-!
The four registries of a collector as one table. What becomes of an entry is told apart by registry
and key. Allocations, collections and edits may settle or prune what an entry observes, but leave
every entry where it is, and the node that it pins.
-/

namespace MarkSweep

inductive Shelf where
  | keepAlive
  | weakRefs
  | weakMaps
  | roots
deriving DecidableEq

inductive Posting where
  | node (r : Ref)
  | watch (e : WeakEntry)
  | nodes (m : NodeMap)
  | marker (id : MarkerId)

def Posting.pinned? : Posting → Option Ref
  | node r => some r
  | _ => none

theorem Posting.map_pinned?_congr {α : Type} {f : α → Posting} (free : ∀ a, (f a).pinned? = none)
    {x y : Option α} (h : x.isSome = y.isSome) :
    (x.map f).map pinned? = (y.map f).map pinned? := by
  cases x <;> cases y <;> simp_all

namespace Collector

def posting? (c : Collector) : Shelf × Key → Option Posting
  | (.keepAlive, key) => (c.keepAlive.get? key).map .node
  | (.weakRefs, key) => (c.weakRefs.get? key).map .watch
  | (.weakMaps, key) => (c.weakMaps.get? key).map .nodes
  | (.roots, key) => (c.roots.get? key).map .marker

def pin? (c : Collector) (row : Shelf × Key) : Option (Option Ref) :=
  (c.posting? row).map Posting.pinned?

variable {c c' : Collector} {key : Key}

theorem posting?_of_shelf {shelf : Shelf} {x : Option Posting}
    (mine : (fun other => c'.posting? (shelf, other)) =
      Function.update (fun other => c.posting? (shelf, other)) key x)
    (others : ∀ s, s ≠ shelf → ∀ other, c'.posting? (s, other) = c.posting? (s, other)) :
    c'.posting? = Function.update c.posting? (shelf, key) x := by
  funext ⟨s, other⟩
  by_cases e : s = shelf
  · subst e
    rw [congrFun mine other]
    simp only [Function.update_apply, Prod.mk.injEq, true_and]
  · have ne : (s, other) ≠ (shelf, key) := fun same => e (congrArg Prod.fst same)
    rw [others s e, Function.update_of_ne ne]

theorem posting?_keepAlive {g : Registry Ref} {x : Option Ref}
    (h : g.get? = Function.update c.keepAlive.get? key x) :
    ({ c with keepAlive := g } : Collector).posting? =
      Function.update c.posting? (.keepAlive, key) (x.map .node) := by
  apply posting?_of_shelf
  · exact (congrArg (Option.map Posting.node ∘ ·) h).trans (Function.comp_update ..)
  · intro s ne other
    cases s with
    | keepAlive => exact absurd rfl ne
    | weakRefs | weakMaps | roots => rfl

theorem posting?_weakRefs {g : Registry WeakEntry} {x : Option WeakEntry}
    (h : g.get? = Function.update c.weakRefs.get? key x) :
    ({ c with weakRefs := g } : Collector).posting? =
      Function.update c.posting? (.weakRefs, key) (x.map .watch) := by
  apply posting?_of_shelf
  · exact (congrArg (Option.map Posting.watch ∘ ·) h).trans (Function.comp_update ..)
  · intro s ne other
    cases s with
    | weakRefs => exact absurd rfl ne
    | keepAlive | weakMaps | roots => rfl

theorem posting?_weakMaps {g : Registry NodeMap} {x : Option NodeMap}
    (h : g.get? = Function.update c.weakMaps.get? key x) :
    ({ c with weakMaps := g } : Collector).posting? =
      Function.update c.posting? (.weakMaps, key) (x.map .nodes) := by
  apply posting?_of_shelf
  · exact (congrArg (Option.map Posting.nodes ∘ ·) h).trans (Function.comp_update ..)
  · intro s ne other
    cases s with
    | weakMaps => exact absurd rfl ne
    | keepAlive | weakRefs | roots => rfl

theorem posting?_roots {g : Registry MarkerId} {x : Option MarkerId}
    (h : g.get? = Function.update c.roots.get? key x) :
    ({ c with roots := g } : Collector).posting? =
      Function.update c.posting? (.roots, key) (x.map .marker) := by
  apply posting?_of_shelf
  · exact (congrArg (Option.map Posting.marker ∘ ·) h).trans (Function.comp_update ..)
  · intro s ne other
    cases s with
    | roots => exact absurd rfl ne
    | keepAlive | weakRefs | weakMaps => rfl

theorem pin?_eq (keepAlive : c'.keepAlive = c.keepAlive)
    (weakRefs : ∀ key, (c'.weakRefs.get? key).isSome = (c.weakRefs.get? key).isSome)
    (weakMaps : ∀ key, (c'.weakMaps.get? key).isSome = (c.weakMaps.get? key).isSome)
    (roots : c'.roots = c.roots) : c'.pin? = c.pin? := by
  funext ⟨shelf, key⟩
  cases shelf with
  | keepAlive => simp only [pin?, posting?, keepAlive]
  | weakRefs => exact Posting.map_pinned?_congr (fun _ => rfl) (weakRefs key)
  | weakMaps => exact Posting.map_pinned?_congr (fun _ => rfl) (weakMaps key)
  | roots => simp only [pin?, posting?, roots]

theorem pin?_modify_weakMaps (c : Collector) (key : Key) (f : NodeMap → NodeMap) :
    ({ c with weakMaps := c.weakMaps.modify key f } : Collector).pin? = c.pin? := by
  refine pin?_eq rfl (fun _ => rfl) ?_ rfl
  exact fun other => Registry.law.isSome_get?_modify c.weakMaps key other f

theorem pin?_edit (c : Collector) (e : Edit) : (e.apply c).pin? = c.pin? := by
  obtain ⟨_, _, _, eq, -⟩ := Edit.apply_eq c e
  rw [eq]
  exact pin?_eq rfl (fun _ => rfl) (fun _ => rfl) rfl

theorem pin?_collect (c : Collector) (p : Process) (trigger : Trigger) (pinned : Option Ref) :
    (c.collect p trigger pinned).2.1.pin? = c.pin? := by
  rcases collect_cases c p trigger pinned with ⟨_, e⟩ | ⟨_, e⟩ | ⟨_, _, e⟩
  · rw [e]
  · rw [e]
    exact pin?_eq rfl (fun _ => rfl) (fun _ => rfl) rfl
  · rw [e]
    refine pin?_eq rfl ?_ ?_ rfl
    · intro key
      simp [sweepPhase, Registry.law.get?_mapValues]
    · intro key
      simp [sweepPhase, Registry.law.get?_mapValues]

theorem pin?_allocate (c : Collector) (p : Process) (header : Header) (object : Object) :
    (c.allocate p header object).2.1.pin? = c.pin? := by
  have placed : (c.place header object).pin? = c.pin? :=
    pin?_eq rfl (fun _ => rfl) (fun _ => rfl) rfl
  rcases allocate_snd c p header object with e | ⟨trigger, e⟩
  · rw [e, placed]
  · rw [e, pin?_collect, placed]

theorem pin?_intern (c : Collector) (p : Process) (text : String) :
    (c.intern p text).2.1.pin? = c.pin? := by
  rw [intern]
  split
  · rfl
  · exact pin?_allocate c p _ _

theorem pin?_tryTrigger (c : Collector) (p : Process) : (c.tryTrigger p).2.1.pin? = c.pin? := by
  rw [tryTrigger]
  split
  · rfl
  · exact pin?_collect c p .manual none

end Collector

end MarkSweep

import MarkSweep.Proofs.World.Handles
import Mathlib.Logic.Relation

/-!
What a drop does. One pending handle goes after the other, with the handles below it in front of the
rest. All entries that go belong to handles that went. A registration loses its handle and keeps its
entry only if it lies below one of its own collector.
-/

namespace MarkSweep

namespace World

variable {w w' : World}

theorem abandon_snd (w : World) (m : MarkerId) :
    (w.abandon m).2 = { w with owned := (w.abandon m).2.owned } := by
  rw [abandon]
  split
  · rfl
  · rfl

theorem mem_abandon {m : MarkerId} {h : Handle} (mem : h ∈ (w.abandon m).1) : (m, h) ∈ w.owned := by
  rw [abandon] at mem
  split at mem
  · cases mem
  · simp only [List.partition_eq_filter_filter, List.mem_map, List.mem_filter,
      decide_eq_true_eq] at mem
    obtain ⟨⟨_, _⟩, ⟨owned, rfl⟩, rfl⟩ := mem
    exact owned

theorem owned_abandon_subset (w : World) (m : MarkerId) : (w.abandon m).2.owned ⊆ w.owned := by
  rw [abandon]
  split
  · exact List.Subset.refl _
  · simp only [List.partition_eq_filter_filter]
    exact List.filter_sublist.subset

theorem unroot_snd (w : World) (r : Registration) :
    (w.unroot r).2 = { r.erase w with owned := (w.unroot r).2.owned } := by
  rw [unroot]
  split
  · exact abandon_snd _ _
  · rfl

theorem mem_unroot {r : Registration} {h : Handle} (mem : h ∈ (w.unroot r).1) :
    ∃ m, (w.collector r.collector).roots.get? r.key = some m ∧ (m, h) ∈ w.owned := by
  rw [unroot] at mem
  split at mem
  · exact ⟨_, ‹_›, mem_abandon (w := r.erase w) mem⟩
  · cases mem

theorem owned_unroot_subset (w : World) (r : Registration) : (w.unroot r).2.owned ⊆ w.owned := by
  rw [unroot]
  split
  · exact owned_abandon_subset (r.erase w) _
  · exact List.Subset.refl _

def letGo (w : World) (m : MarkerId) : List Handle × World :=
  { w with held := w.held.erase m }.abandon m

theorem release_eq (w : World) (m : MarkerId) :
    w.release m = (w.letGo m).2.cascade .done ((w.letGo m).1.map (⟨·, []⟩)) := rfl

theorem letGo_snd (w : World) (m : MarkerId) :
    (w.letGo m).2 = { w with owned := (w.letGo m).2.owned, held := w.held.erase m } :=
  abandon_snd _ m

theorem mem_letGo {m : MarkerId} {h : Handle} (mem : h ∈ (w.letGo m).1) : (m, h) ∈ w.owned :=
  mem_abandon (w := { w with held := w.held.erase m }) mem

theorem owned_letGo_subset (w : World) (m : MarkerId) : (w.letGo m).2.owned ⊆ w.owned :=
  owned_abandon_subset { w with held := w.held.erase m } m

theorem perm_letGo (w : World) (m : MarkerId) :
    ((w.letGo m).1 ++ (w.letGo m).2.owned.map Prod.snd).Perm (w.owned.map Prod.snd) :=
  perm_abandon { w with held := w.held.erase m } m

structure Falling where
  world : World
  fallout : Fallout
  pending : List Pending

/-- One pending handle goes. -/
inductive Falls : Falling → Falling → Prop where
  | strike {w : World} {f : Fallout} {h : Handle} {busy : List CollectorId} {ps : List Pending} :
    (∀ r, h ≠ .root r) → Falls ⟨w, f, ⟨h, busy⟩ :: ps⟩ ⟨h.erase w, f, ps⟩
  | strand {w : World} {r : Registration} {busy : List CollectorId} {ps : List Pending} :
    r.collector ∈ busy → Falls ⟨w, .done, ⟨.root r, busy⟩ :: ps⟩ ⟨w, .panicked r, ps⟩
  | unroot {w : World} {f : Fallout} {r : Registration} {busy : List CollectorId}
    {ps : List Pending} : r.collector ∉ busy →
    Falls ⟨w, f, ⟨.root r, busy⟩ :: ps⟩
      ⟨(w.unroot r).2, f, (w.unroot r).1.map (⟨·, r.collector :: busy⟩) ++ ps⟩

theorem falls_cascade (w : World) (f : Fallout) (ps : List Pending) :
    ∃ s, Relation.ReflTransGen Falls ⟨w, f, ps⟩ s ∧ s.world = (w.cascade f ps).2 ∧
      ((w.cascade f ps).1 ≠ .aborted →
        s.fallout = (w.cascade f ps).1 ∧ s.pending = []) := by
  induction w, f, ps using cascade.induct with
  | case1 w f => exact ⟨_, .refl, by rw [cascade], fun _ => by rw [cascade]; exact ⟨rfl, rfl⟩⟩
  | case2 w r busy ps inside ih =>
    obtain ⟨s, falls, ends⟩ := ih
    rw [cascade, if_pos inside, if_pos rfl]
    exact ⟨s, .head (.strand inside) falls, ends⟩
  | case3 w f r busy ps inside again =>
    rw [cascade, if_pos inside, if_neg again]
    exact ⟨_, .refl, rfl, fun whole => absurd rfl whole⟩
  | case4 w f r busy ps free ih =>
    obtain ⟨s, falls, ends⟩ := ih
    rw [cascade, if_neg free]
    exact ⟨s, .head (.unroot free) falls, ends⟩
  | case5 w f h busy ps other ih =>
    obtain ⟨s, falls, ends⟩ := ih
    rw [cascade]
    · exact ⟨s, .head (.strike other) falls, ends⟩
    · exact other

theorem cascade_ind {P : Falling → Prop} (step : ∀ s s', Falls s s' → P s → P s') {f : Fallout}
    {ps : List Pending} (start : P ⟨w, f, ps⟩) (whole : (w.cascade f ps).1 ≠ .aborted) :
    P ⟨(w.cascade f ps).2, (w.cascade f ps).1, []⟩ := by
  obtain ⟨s, falls, world, ends⟩ := falls_cascade w f ps
  obtain ⟨fallout, pending⟩ := ends whole
  rw [← world, ← fallout, ← pending]
  exact falls.rec start fun _ one before => step _ _ one before

def Op.striking : Handle → Op
  | .keep k => keepDrop k
  | .weak r => weakDrop r
  | .map m => mapDrop m
  | .root r => unregister r

theorem Op.apply_striking (h : Handle) (w : World) : (striking h).apply w = h.erase w := by
  cases h <;> rfl

theorem Op.spent?_striking (h : Handle) : (striking h).spent? = some h := by
  cases h <;> rfl

theorem Op.made?_striking (h : Handle) (w : World) : (striking h).made? w = none := by
  cases h <;> rfl

def Op.IsDropping : Op → Prop
  | keepDrop _ | weakDrop _ | mapDrop _ | unregister _ | entrust _ _ => True
  | _ => False

theorem Op.isDropping_striking (h : Handle) : (striking h).IsDropping := by
  cases h <;> trivial

theorem Falls.exists_ops {s s' : Falling} (h : Falls s s') :
    ∃ ops : List Op, (∀ o ∈ ops, o.IsDropping) ∧ s'.world = ops.foldl Op.apply s.world := by
  cases h with
  | @strike w f h busy ps =>
    refine ⟨[.striking h], ?_, (Op.apply_striking h w).symm⟩
    simpa using Op.isDropping_striking h
  | strand => exact ⟨[], by simp, rfl⟩
  | @unroot w f r busy ps =>
    refine ⟨[.unregister r, .entrust (w.unroot r).2.owned w.held], by simp [Op.IsDropping], ?_⟩
    exact unroot_snd w r

theorem exists_ops_cascade (w : World) (f : Fallout) (ps : List Pending) :
    ∃ ops : List Op, (∀ o ∈ ops, o.IsDropping) ∧ (w.cascade f ps).2 = ops.foldl Op.apply w := by
  obtain ⟨s, falls, world, -⟩ := falls_cascade w f ps
  rw [← world]
  clear world
  induction falls with
  | refl => exact ⟨[], by simp, rfl⟩
  | tail _ one ih =>
    obtain ⟨ops, dropping, e⟩ := ih
    obtain ⟨more, dropping', e'⟩ := one.exists_ops
    refine ⟨ops ++ more, ?_, by rw [e', e, List.foldl_append]⟩
    simpa [or_imp, forall_and] using ⟨dropping, dropping'⟩

theorem exists_ops_release (w : World) (m : MarkerId) :
    ∃ ops : List Op, (∀ o ∈ ops, o.IsDropping) ∧ (w.release m).2 = ops.foldl Op.apply w := by
  obtain ⟨ops, dropping, e⟩ := exists_ops_cascade (w.letGo m).2 .done ((w.letGo m).1.map (⟨·, []⟩))
  refine ⟨.entrust (w.letGo m).2.owned (w.held.erase m) :: ops, ?_, ?_⟩
  · simpa [Op.IsDropping] using dropping
  · rw [release_eq, e, letGo_snd]
    rfl

/-- What dropping these handles may come to, and the collectors whose root sets are borrowed by
then. -/
inductive Under (w : World) (top : List Handle) : Handle → List CollectorId → Prop where
  | top {h : Handle} : h ∈ top → Under w top h []
  | owned {r : Registration} {m : MarkerId} {h : Handle} {busy : List CollectorId} :
    Under w top (.root r) busy → (w.collector r.collector).roots.get? r.key = some m →
    (m, h) ∈ w.owned → Under w top h (r.collector :: busy)

def Falling.listed (s : Falling) : List Handle :=
  s.pending.map Pending.handle ++ s.world.owned.map Prod.snd ++ s.fallout.stranded.map .root

/-- What a cascade that began in the first world keeps to. -/
structure Falling.Sound (w : World) (top rest : List Handle) (s : Falling) : Prop where
  orderly : ∀ id, (s.world.collector id).Orderly
  mirrors : Mirrors s.world.posting? (s.listed ++ rest)
  same : ∀ h ∈ s.listed ++ rest, s.world.posting? h.spot = w.posting? h.spot
  owned : s.world.owned ⊆ w.owned
  under : ∀ p ∈ s.pending, Under w top p.handle p.busy
  stranded : ∀ r ∈ s.fallout.stranded, ∃ busy, Under w top (.root r) busy ∧ r.collector ∈ busy

theorem Mirrors.erase_entry {h : Handle} {hs : List Handle} (mirrors : Mirrors w.posting? (h :: hs))
    (hw : ∀ id, (w.collector id).Orderly) :
    Mirrors (h.erase w).posting? hs ∧
      ∀ g ∈ hs, (h.erase w).posting? g.spot = w.posting? g.spot := by
  have mine (g : Handle) (spent : some h = some g) : g ∈ h :: hs := by
    cases spent
    exact List.mem_cons_self
  have reposts := reposts_apply hw (.striking h)
    (fun g made => by rw [Op.made?_striking] at made; cases made)
    (fun g spent => (mirrors.mem_iff g).mp (mine g (Op.spent?_striking h ▸ spent)))
  rw [Op.made?_striking, Op.spent?_striking, Op.apply_striking] at reposts
  constructor
  · simpa using mirrors.reposts mine reposts
  · intro g mem
    refine mirrors.posting?_eq mine (.inr rfl) reposts (List.mem_cons_of_mem h mem) ?_
    rintro ⟨⟩
    exact (List.nodup_cons.mp mirrors.nodup).1 mem

theorem marker_of_posting?_eq {r : Registration} {m : MarkerId}
    (same : w'.posting? (Handle.root r).spot = w.posting? (Handle.root r).spot)
    (root : (w'.collector r.collector).roots.get? r.key = some m) :
    (w.collector r.collector).roots.get? r.key = some m := by
  refine Option.map_injective (f := Posting.marker) (fun _ _ e => Posting.marker.inj e) ?_
  exact same.symm.trans (congrArg (Option.map Posting.marker) root)

theorem listed_strike (w : World) (f : Fallout) (h : Handle) (ps : List Pending) :
    Falling.listed ⟨h.erase w, f, ps⟩ = Falling.listed ⟨w, f, ps⟩ := by
  simp only [Falling.listed, h.owned_erase]

theorem perm_listed_strand (w : World) (r : Registration) (busy : List CollectorId)
    (ps : List Pending) :
    (Falling.listed ⟨w, .done, ⟨.root r, busy⟩ :: ps⟩).Perm
      (Falling.listed ⟨w, .panicked r, ps⟩) := by
  refine List.perm_iff_count.mpr fun h => ?_
  simp only [Falling.listed, Fallout.stranded, List.map_cons, List.map_nil, List.cons_append,
    List.count_append, List.count_cons, List.count_nil]
  omega

theorem perm_listed_unroot (w : World) (f : Fallout) (r : Registration) (busy : List CollectorId)
    (ps : List Pending) :
    (Falling.listed ⟨w, f, ps⟩).Perm
      (Falling.listed ⟨(w.unroot r).2, f, (w.unroot r).1.map (⟨·, busy⟩) ++ ps⟩) := by
  refine List.perm_iff_count.mpr fun h => ?_
  have moved := (w.perm_unroot r).count_eq h
  simp only [Falling.listed, List.map_append, List.map_map, Function.comp_def, List.map_id',
    List.count_append] at moved ⊢
  omega

theorem posting?_unroot (w : World) (r : Registration) :
    (w.unroot r).2.posting? = (Handle.erase w (.root r)).posting? := by
  rw [unroot_snd]
  rfl

theorem Falling.Sound.under_unroot {top rest : List Handle} {f : Fallout} {r : Registration}
    {busy : List CollectorId} {ps : List Pending}
    (sound : Falling.Sound w top rest ⟨w', f, ⟨.root r, busy⟩ :: ps⟩) :
    ∀ p ∈ (w'.unroot r).1.map (⟨·, r.collector :: busy⟩) ++ ps, Under w top p.handle p.busy := by
  intro p mem
  have above := sound.under _ List.mem_cons_self
  rcases List.mem_append.mp mem with mem | mem
  · obtain ⟨h, below, rfl⟩ := List.mem_map.mp mem
    obtain ⟨m, root, owned⟩ := mem_unroot below
    -- The entry is still the one that it was when the cascade began, so the marker is the same.
    have root := marker_of_posting?_eq (sound.same _ List.mem_cons_self) root
    exact .owned above root (sound.owned owned)
  · exact sound.under p (List.mem_cons_of_mem _ mem)

theorem Falling.Sound.falls {top rest : List Handle} {s s' : Falling} (sound : s.Sound w top rest)
    (h : Falls s s') : s'.Sound w top rest := by
  have orderly : ∀ id, (s'.world.collector id).Orderly := by
    obtain ⟨ops, -, e⟩ := h.exists_ops
    rw [e]
    exact orderly_foldl sound.orderly ops
  cases h with
  | @strike w₁ f h busy ps other =>
    obtain ⟨mirrors, same⟩ := sound.mirrors.erase_entry sound.orderly
    refine ⟨orderly, ?_, ?_, ?_, ?_, sound.stranded⟩
    · rw [listed_strike]
      exact mirrors
    · intro g mem
      rw [listed_strike] at mem
      exact (same g mem).trans (sound.same g (List.mem_cons_of_mem h mem))
    · rw [h.owned_erase]
      exact sound.owned
    · exact fun p mem => sound.under p (List.mem_cons_of_mem _ mem)
  | @strand w₁ r busy ps inside =>
    have perm := (perm_listed_strand w₁ r busy ps).append_right rest
    refine ⟨orderly, sound.mirrors.perm perm, ?_, sound.owned, ?_, ?_⟩
    · exact fun g mem => sound.same g (perm.mem_iff.mpr mem)
    · exact fun p mem => sound.under p (List.mem_cons_of_mem _ mem)
    · intro r' mem
      obtain rfl := List.mem_singleton.mp mem
      exact ⟨busy, sound.under _ List.mem_cons_self, inside⟩
  | @unroot w₁ f r busy ps free =>
    obtain ⟨mirrors, same⟩ := sound.mirrors.erase_entry sound.orderly
    have perm := (perm_listed_unroot w₁ f r (r.collector :: busy) ps).append_right rest
    refine ⟨orderly, ?_, ?_, ?_, sound.under_unroot, sound.stranded⟩
    · rw [posting?_unroot]
      exact mirrors.perm perm
    · intro g mem
      have mem := perm.mem_iff.mpr mem
      rw [posting?_unroot]
      exact (same g mem).trans (sound.same g (List.mem_cons_of_mem _ mem))
    · exact List.Subset.trans (owned_unroot_subset w₁ r) sound.owned

theorem Falling.Sound.cascade {top rest : List Handle} {f : Fallout} {ps : List Pending}
    (sound : Falling.Sound w top rest ⟨w', f, ps⟩) (whole : (w'.cascade f ps).1 ≠ .aborted) :
    Falling.Sound w top rest ⟨(w'.cascade f ps).2, (w'.cascade f ps).1, []⟩ :=
  cascade_ind (fun _ _ one before => before.falls one) sound whole

def Doomed (ps : List Pending) : Prop :=
  ∃ r busy, ⟨.root r, busy⟩ ∈ ps ∧ r.collector ∈ busy

theorem Doomed.of_cons {p : Pending} {ps : List Pending} (doomed : Doomed (p :: ps))
    (free : ∀ r, p.handle = .root r → r.collector ∉ p.busy) : Doomed ps := by
  obtain ⟨r, busy, mem, inside⟩ := doomed
  rcases List.mem_cons.mp mem with rfl | mem
  · exact absurd inside (free r rfl)
  · exact ⟨r, busy, mem, inside⟩

theorem Doomed.append_left {ps : List Pending} (doomed : Doomed ps) (qs : List Pending) :
    Doomed (qs ++ ps) := by
  obtain ⟨r, busy, mem, inside⟩ := doomed
  exact ⟨r, busy, List.mem_append_right qs mem, inside⟩

theorem cascade_ne_done {f : Fallout} {ps : List Pending} (doomed : f ≠ .done ∨ Doomed ps) :
    (w.cascade f ps).1 ≠ .done := by
  induction w, f, ps using cascade.induct with
  | case1 w f =>
    rw [World.cascade]
    simpa [Doomed] using doomed
  | case2 w r busy ps inside ih =>
    rw [World.cascade, if_pos inside, if_pos rfl]
    exact ih (.inl nofun)
  | case3 w f r busy ps inside again =>
    rw [World.cascade, if_pos inside, if_neg again]
    exact nofun
  | case4 w f r busy ps free ih =>
    rw [World.cascade, if_neg free]
    refine ih (doomed.imp_right fun doomed => (doomed.of_cons ?_).append_left _)
    rintro _ ⟨⟩
    exact free
  | case5 w f h busy ps other ih =>
    rw [World.cascade]
    · exact ih (doomed.imp_right fun doomed => doomed.of_cons fun r e => absurd e (other r))
    · exact other

/-- A registration that its marker needs cannot be dropped if the marker owns another of the same
collector. -/
theorem drop_ne_done {r inner : Registration} {m : MarkerId}
    (root : (w.collector r.collector).roots.get? r.key = some m)
    (last : (r.erase w).refersTo m = false) (owned : (m, .root inner) ∈ w.owned)
    (same : inner.collector = r.collector) : (w.drop (.root r)).1 ≠ .done := by
  have below : .root inner ∈ (w.unroot r).1 := by
    have kept : (m, .root inner) ∈ (r.erase w).owned := owned
    simp only [unroot, root, abandon, last, List.partition_eq_filter_filter]
    simpa using kept
  rw [drop, World.cascade, if_neg List.not_mem_nil]
  refine cascade_ne_done (.inr ⟨inner, [r.collector], ?_, ?_⟩)
  · exact List.mem_append_left _ (List.mem_map_of_mem below)
  · rw [same]
    exact List.mem_singleton_self _

end World

end MarkSweep

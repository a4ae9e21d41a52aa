import MarkSweep.Proofs.Heap.Store
import MarkSweep.Proofs.Marking.Closure
import Mathlib.Data.Set.Card
import Mathlib.Order.Bounds.Defs

/-!
The worklist, step by step. Draining reads one slot after another from a heap that it is marking at
the same time. It stops all the same, whatever the graph, and no node is put on the worklist twice.
-/

namespace MarkSweep

structure Heap.Remarks (h h' : Heap) : Prop where
  residents : ∀ r, Option.Rel (fun x y => y.object = x.object ∧ y.header.Agrees x.header)
    (h.resident? r) (h'.resident? r)
  generations : ∀ i : Nat, h'.places[i]?.map Place.generation = h.places[i]?.map Place.generation
  free : h'.free = h.free

theorem Heap.remarks_of_clearMarks_eq {h h' : Heap} (e : h'.clearMarks = h.clearMarks) :
    h.Remarks h' where
  residents r := by
    have same : (h'.resident? r).map Resident.clearMark = (h.resident? r).map Resident.clearMark := by
      rw [← resident?_clearMarks, e, resident?_clearMarks]
    cases hx : h.resident? r with
    | none =>
      rw [hx, Option.map_none, Option.map_eq_none_iff] at same
      rw [same]
      exact .none
    | some x =>
      rw [hx] at same
      obtain ⟨y, hy, cleared⟩ := Option.map_eq_some_iff.mp same
      obtain ⟨headers, objects⟩ := Resident.mk.inj cleared
      rw [hy]
      exact .some ⟨objects, Header.agrees_of_clearMark_eq headers⟩
  generations i := by
    have generation (p : Place) : p.clearMark.generation = p.generation := rfl
    have same := congrArg (fun h : Heap => h.places[i]?.map Place.generation) e
    simpa only [clearMarks, Array.getElem?_map, Option.map_map, Function.comp_def, generation]
      using same
  free := (congrArg Heap.free e : h'.clearMarks.free = h.clearMarks.free)

namespace Tracer

variable {t t' t'' : Tracer} {ps qs : List Ref}

structure Pushes (t : Tracer) (ps : List Ref) (t' : Tracer) : Prop where
  nodup : ps.Nodup
  fresh : ∀ r ∈ ps, ¬t.isMarked r
  marks : ∀ r, t'.isMarked r ↔ t.isMarked r ∨ r ∈ ps
  count : t'.marked = t.marked + ps.length
  rest : t'.heap.clearMarks = t.heap.clearMarks

namespace Pushes

theorem refl (t : Tracer) : t.Pushes [] t where
  nodup := .nil
  fresh r hr := absurd hr List.not_mem_nil
  marks r := by simp
  count := rfl
  rest := rfl

theorem withWorklist (t : Tracer) (rs : List Ref) : t.Pushes [] { t with worklist := rs } where
  nodup := .nil
  fresh r hr := absurd hr List.not_mem_nil
  marks r := by simp [isMarked]
  count := rfl
  rest := rfl

theorem trans (first : t.Pushes ps t') (second : t'.Pushes qs t'') : t.Pushes (ps ++ qs) t'' where
  nodup := by
    refine List.nodup_append.mpr ⟨first.nodup, second.nodup, ?_⟩
    rintro r hr _ hs rfl
    exact second.fresh r hs ((first.marks r).mpr (.inr hr))
  fresh r hr marked := by
    rcases List.mem_append.mp hr with hr | hr
    · exact first.fresh r hr marked
    · exact second.fresh r hr ((first.marks r).mpr (.inl marked))
  marks r := by rw [second.marks, first.marks, List.mem_append, or_assoc]
  count := by rw [second.count, first.count, List.length_append, Nat.add_assoc]
  rest := second.rest.trans first.rest

end Pushes

theorem exists_pushes_mark (t : Tracer) (r : Ref) :
    ∃ ps, t.Pushes ps (t.mark r) ∧ (t.mark r).worklist = ps.reverse ++ t.worklist := by
  have rest := clearMarks_mark t r
  have marks := isMarked_mark t r
  rw [mark] at rest marks ⊢
  cases hm : t.heap.mark? r with
  | none => exact ⟨[], .refl t, rfl⟩
  | some heap =>
    obtain ⟨⟨x, hx, unmarked⟩, -⟩ := Heap.mark?_eq_some_iff.mp hm
    have live : t.heap.isLive r := by simp [Heap.isLive, hx]
    simp only [hm] at rest marks ⊢
    refine ⟨[r], ⟨List.nodup_singleton r, ?_, ?_, rfl, rest⟩, rfl⟩
    · intro s hs
      rw [List.mem_singleton.mp hs]
      simp [isMarked, Heap.isMarked, hx, unmarked]
    · intro s
      rw [marks, List.mem_singleton, and_iff_left live]

theorem exists_pushes_markAll (t : Tracer) (rs : List Ref) :
    ∃ ps, t.Pushes ps (t.markAll rs) ∧ (t.markAll rs).worklist = ps.reverse ++ t.worklist := by
  induction rs generalizing t with
  | nil => exact ⟨[], .refl t, rfl⟩
  | cons r rs ih =>
    obtain ⟨ps, first, top⟩ := exists_pushes_mark t r
    obtain ⟨qs, later, tops⟩ := ih (t.mark r)
    refine ⟨ps ++ qs, first.trans later, ?_⟩
    rw [markAll, List.foldl_cons, ← markAll, tops, top, List.reverse_append, List.append_assoc]

def marking (h : Heap) (rs : List Ref) : Tracer := { heap := h.clearMarks : Tracer }.markAll rs

theorem tricolour_marking (h : Heap) (rs : List Ref) : (marking h rs).Tricolour := by
  apply tricolour_markAll
  · intro r hr
    exact absurd hr List.not_mem_nil
  · intro r hr
    simp [isMarked, Heap.isMarked_clearMarks] at hr

theorem nodup_worklist_marking (h : Heap) (rs : List Ref) : (marking h rs).worklist.Nodup := by
  obtain ⟨ps, pushes, worklist⟩ := exists_pushes_markAll { heap := h.clearMarks } rs
  rw [marking, worklist, List.append_nil]
  exact List.nodup_reverse.mpr pushes.nodup

end Tracer

structure Draining where
  tracer : Tracer
  visit : Option (Ref × Nat) := none

namespace Draining

/-- One step of draining, and what it puts on the worklist. A node is taken off, or a slot of it is
read from the heap as it is by then, or none of its slots is left. -/
inductive Step : Draining → List Ref → Draining → Prop where
  | take {t : Tracer} {r : Ref} {rest : List Ref} : t.worklist = r :: rest →
      Step ⟨t, none⟩ [] ⟨{ t with worklist := rest }, some (r, 0)⟩
  | read {t : Tracer} {r : Ref} {i : Nat} {slots : Array Slot} {s : Slot} {ps : List Ref} :
      t.heap.object? r = some (.vector slots) → slots[i]? = some s →
      (t.markSlot s).worklist = ps.reverse ++ t.worklist →
      Step ⟨t, some (r, i)⟩ ps ⟨t.markSlot s, some (r, i + 1)⟩
  | leave {t : Tracer} {r : Ref} {i : Nat} :
      (∀ slots, t.heap.object? r = some (.vector slots) → slots.size ≤ i) →
      Step ⟨t, some (r, i)⟩ [] ⟨t, none⟩

inductive Run : Draining → List Ref → Draining → Prop where
  | nil {d : Draining} : Run d [] d
  | cons {d d' d'' : Draining} {ps qs : List Ref} : d.Step ps d' → Run d' qs d'' →
      Run d (ps ++ qs) d''

def Halts (d : Draining) : Prop := ∀ ps d', ¬d.Step ps d'

variable {d d' e f : Draining} {ps qs : List Ref}

def unread (d : Draining) : Nat :=
  match d.visit with
  | none => 0
  | some (r, i) =>
    match d.tracer.heap.object? r with
    | some (.vector slots) => slots.size - i + 1
    | _ => 1

theorem pending_markSlot (t : Tracer) (s : Slot) : (t.markSlot s).pending = t.pending := by
  cases s with
  | node r => exact t.pending_mark r
  | empty | scalar => rfl

theorem clearMarks_markSlot (t : Tracer) (s : Slot) :
    (t.markSlot s).heap.clearMarks = t.heap.clearMarks := by
  cases s with
  | node r => exact t.clearMarks_mark r
  | empty | scalar => rfl

theorem Step.decreases (step : d.Step ps d') :
    d'.tracer.pending < d.tracer.pending ∨
      d'.tracer.pending = d.tracer.pending ∧ d'.unread < d.unread := by
  cases step with
  | @take t r rest worklist =>
    left
    simp [Tracer.pending, worklist]
  | @read t r i slots s ps ho hs =>
    right
    refine ⟨pending_markSlot t s, ?_⟩
    obtain ⟨within, -⟩ := Array.getElem?_eq_some_iff.mp hs
    simp only [unread, Heap.object?_congr (clearMarks_markSlot t s), ho]
    omega
  | @leave t r i past =>
    right
    refine ⟨rfl, ?_⟩
    simp only [unread]
    split <;> omega

theorem wellFounded_step : WellFounded fun d' d : Draining => ∃ ps, d.Step ps d' := by
  have order : WellFounded (Prod.Lex (· < · : Nat → Nat → Prop) (· < · : Nat → Nat → Prop)) :=
    (Prod.lex Nat.lt_wfRel Nat.lt_wfRel).wf
  refine Subrelation.wf ?_ (InvImage.wf (fun d : Draining => (d.tracer.pending, d.unread)) order)
  rintro d' d ⟨ps, step⟩
  exact Prod.lex_def.mpr step.decreases

theorem Step.deterministic {d'' : Draining} (first : d.Step ps d') (second : d.Step qs d'') :
    ps = qs ∧ d' = d'' := by
  cases first with
  | take worklist =>
    cases second with
    | take worklist' =>
      obtain ⟨rfl, rfl⟩ := List.cons.inj (worklist.symm.trans worklist')
      exact ⟨rfl, rfl⟩
  | read ho hs top =>
    cases second with
    | read ho' hs' top' =>
      obtain rfl := Object.vector.inj (Option.some.inj (ho.symm.trans ho'))
      obtain rfl := Option.some.inj (hs.symm.trans hs')
      have same := List.append_cancel_right (top.symm.trans top')
      exact ⟨List.reverse_injective same, rfl⟩
    | leave past =>
      obtain ⟨within, -⟩ := Array.getElem?_eq_some_iff.mp hs
      exact absurd (past _ ho) (Nat.not_le.mpr within)
  | leave past =>
    cases second with
    | read ho hs top =>
      obtain ⟨within, -⟩ := Array.getElem?_eq_some_iff.mp hs
      exact absurd (past _ ho) (Nat.not_le.mpr within)
    | leave => exact ⟨rfl, rfl⟩

theorem Run.unique (first : d.Run ps e) (stops : e.Halts) (second : d.Run qs f)
    (stops' : f.Halts) : ps = qs ∧ e = f := by
  induction first generalizing qs f with
  | nil =>
    cases second with
    | nil => exact ⟨rfl, rfl⟩
    | cons step => exact absurd step (stops _ _)
  | cons step _ ih =>
    cases second with
    | nil => exact absurd step (stops' _ _)
    | cons step' rest =>
      obtain ⟨rfl, rfl⟩ := step.deterministic step'
      obtain ⟨rfl, rfl⟩ := ih stops rest stops'
      exact ⟨rfl, rfl⟩

theorem Run.trans (first : d.Run ps e) (second : e.Run qs f) : d.Run (ps ++ qs) f := by
  induction first with
  | nil => exact second
  | cons step _ ih =>
    rw [List.append_assoc]
    exact .cons step (ih second)

theorem halts_of_worklist {t : Tracer} (worklist : t.worklist = []) : Halts ⟨t, none⟩ := by
  rintro ps d' step
  cases step with
  | take some => simp [worklist] at some

theorem markSlot_eq (t : Tracer) (s : Slot) : t.markSlot s = t.markAll s.node?.toList := by
  cases s <;> rfl

theorem exists_pushes_markSlot (t : Tracer) (s : Slot) :
    ∃ ps, t.Pushes ps (t.markSlot s) ∧ (t.markSlot s).worklist = ps.reverse ++ t.worklist := by
  rw [markSlot_eq]
  exact t.exists_pushes_markAll _

theorem exists_run_visit {t : Tracer} {r : Ref} {slots : Array Slot} {i : Nat} (rest : List Slot)
    (ho : t.heap.object? r = some (.vector slots)) (left : slots.toList.drop i = rest) :
    ∃ ps, Run ⟨t, some (r, i)⟩ ps ⟨t.markAll (rest.filterMap Slot.node?), none⟩ := by
  induction rest generalizing t i with
  | nil =>
    have past : slots.size ≤ i := by simpa using left
    refine ⟨_, .cons (.leave ?_) .nil⟩
    intro others ho'
    obtain rfl := Object.vector.inj (Option.some.inj (ho.symm.trans ho'))
    exact past
  | cons s rest ih =>
    have next : slots[i]? = some s := by
      rw [← Array.getElem?_toList, ← List.head?_drop, left, List.head?_cons]
    have tail : slots.toList.drop (i + 1) = rest := by
      rw [← List.tail_drop, left, List.tail_cons]
    have same : (t.markSlot s).heap.object? r = some (.vector slots) := by
      rw [Heap.object?_congr (clearMarks_markSlot t s), ho]
    obtain ⟨ps, -, top⟩ := exists_pushes_markSlot t s
    obtain ⟨qs, run⟩ := ih same tail
    have marked : (t.markSlot s).markAll (rest.filterMap Slot.node?) =
        t.markAll ((s :: rest).filterMap Slot.node?) := by
      rw [markSlot_eq, ← Tracer.markAll_append]
      cases s <;> rfl
    exact ⟨ps ++ qs, .cons (.read ho next top) (marked ▸ run)⟩

theorem exists_run_drain (t : Tracer) : ∃ ps, Run ⟨t, none⟩ ps ⟨t.drain, none⟩ := by
  fun_induction Tracer.drain t with
  | case1 t empty => exact ⟨[], .nil⟩
  | case2 t r rest worklist ih =>
    obtain ⟨qs, later⟩ := ih
    have visit : ∃ ps, Run ⟨{ t with worklist := rest }, some (r, 0)⟩ ps
        ⟨{ t with worklist := rest }.markAll (t.heap.edges r), none⟩ := by
      rw [Heap.edges]
      cases ho : t.heap.object? r with
      | none => exact ⟨_, .cons (.leave fun slots ho' => by simp [ho] at ho') .nil⟩
      | some o =>
        cases o with
        | chunk bytes => exact ⟨_, .cons (.leave fun slots ho' => by simp [ho] at ho') .nil⟩
        | vector slots => exact exists_run_visit slots.toList ho rfl
    obtain ⟨ps, visited⟩ := visit
    exact ⟨_, (Run.cons (.take worklist) visited).trans later⟩

theorem Step.pushes (step : d.Step ps d') : d.tracer.Pushes ps d'.tracer := by
  cases step with
  | take => exact .withWorklist _ _
  | @read t r i slots s ps ho hs top =>
    obtain ⟨qs, pushes, top'⟩ := exists_pushes_markSlot t s
    have same := List.reverse_injective (List.append_cancel_right (top.symm.trans top'))
    rwa [same]
  | leave => exact .refl _

theorem Run.pushes (run : d.Run ps e) : d.tracer.Pushes ps e.tracer := by
  induction run with
  | nil => exact .refl _
  | cons step _ ih => exact step.pushes.trans ih

end Draining

namespace Tracer

theorem isLeast_drain {t : Tracer} (sound : t.Tricolour) :
    IsLeast {marks : Set Ref | (∀ r, t.isMarked r → r ∈ marks) ∧
      ∀ r ∈ marks, ∀ s ∈ t.heap.edges r, t.heap.isLive s → s ∈ marks} {r | t.drain.isMarked r} := by
  constructor
  · refine ⟨fun r hr => isMarked_drain hr, fun r hr s edge live => ?_⟩
    exact sound.isMarked_drain_iff.mpr ((sound.isMarked_drain_iff.mp hr).edge edge live)
  · rintro marks ⟨marked, closed⟩ r hr
    have reached := sound.isMarked_drain_iff.mp hr
    clear hr
    induction reached with
    | root hr _ => exact marked _ hr
    | edge _ edge live ih => exact closed _ ih _ edge live

theorem Pushes.marked_eq {t t' : Tracer} {ps : List Ref} (pushes : t.Pushes ps t') :
    t'.marked = t.marked + {r | t'.isMarked r ∧ ¬t.isMarked r}.ncard := by
  have new : {r | t'.isMarked r ∧ ¬t.isMarked r} = (ps.toFinset : Set Ref) := by
    ext r
    simp only [Set.mem_ofPred_eq, pushes.marks, List.coe_toFinset]
    constructor
    · rintro ⟨marked | pushed, unmarked⟩
      · exact absurd marked unmarked
      · exact pushed
    · intro pushed
      exact ⟨.inr pushed, pushes.fresh r pushed⟩
  rw [new, Set.ncard_coe_finset, List.toFinset_card_of_nodup pushes.nodup, pushes.count]

/-- Draining stops, whatever the graph, and then the marked nodes are closed under live slots. Each
of those that it adds was put on the worklist once, and the heap is as before but for their marks.
-/
theorem drain_closes_marks (t : Tracer) (sound : t.Tricolour) :
    (∀ h rs, (marking h rs).Tricolour ∧ (marking h rs).worklist.Nodup) ∧
    Acc (fun d' d : Draining => ∃ ps, d.Step ps d') ⟨t, none⟩ ∧
    ∃ pushed,
      (∀ ps d, (Draining.Run ⟨t, none⟩ ps d ∧ d.Halts) ↔ ps = pushed ∧ d = ⟨t.drain, none⟩) ∧
      t.drain.worklist = [] ∧
      IsLeast {marks : Set Ref | (∀ r, t.isMarked r → r ∈ marks) ∧
        ∀ r ∈ marks, ∀ s ∈ t.heap.edges r, t.heap.isLive s → s ∈ marks} {r | t.drain.isMarked r} ∧
      pushed.Nodup ∧ t.worklist.Disjoint pushed ∧
      t.drain.marked = t.marked + {r | t.drain.isMarked r ∧ ¬t.isMarked r}.ncard ∧
      t.heap.Remarks t.drain.heap := by
  obtain ⟨pushed, run⟩ := Draining.exists_run_drain t
  have stops := Draining.halts_of_worklist t.worklist_drain
  have pushes := run.pushes
  refine ⟨fun h rs => ⟨tricolour_marking h rs, nodup_worklist_marking h rs⟩,
    Draining.wellFounded_step.apply _, pushed, fun ps d => ⟨?_, ?_⟩, t.worklist_drain,
    isLeast_drain sound, pushes.nodup, ?_, pushes.marked_eq,
    Heap.remarks_of_clearMarks_eq pushes.rest⟩
  · rintro ⟨other, stops'⟩
    exact other.unique stops' run stops
  · rintro ⟨rfl, rfl⟩
    exact ⟨run, stops⟩
  · intro r waiting new
    exact pushes.fresh r new (sound.grey r waiting)

def ring : Heap :=
  let (first, heap) := Heap.empty.allocate (.ofKind .vector) (.emptySlots 1)
  let (lost, heap) := heap.allocate (.ofKind .chunk) (.zeros 3)
  let (second, heap) := heap.allocate (.ofKind .vector)
    (.vector #[.node first, .node { lost with generation := 9 }, .node first])
  heap.setObject first (.vector #[.node second])

theorem drain_closes_marks_ring :
    (marking ring [⟨0, 0⟩]).Tricolour ∧
    (marking ring [⟨0, 0⟩]).drain.isMarked ⟨2, 0⟩ ∧
    ¬(marking ring [⟨0, 0⟩]).drain.isMarked ⟨1, 0⟩ ∧
    {r | (marking ring [⟨0, 0⟩]).drain.isMarked r ∧ ¬(marking ring [⟨0, 0⟩]).isMarked r}.ncard = 1 ∧
    ∃ pushed, Draining.Run ⟨marking ring [⟨0, 0⟩], none⟩ pushed ⟨(marking ring [⟨0, 0⟩]).drain, none⟩ ∧
      ((marking ring [⟨0, 0⟩]).worklist ++ pushed).Nodup := by
  have sound := tricolour_marking ring [⟨0, 0⟩]
  obtain ⟨states, -, pushed, run, -, -, nodup, apart, count, -⟩ :=
    drain_closes_marks (marking ring [⟨0, 0⟩]) sound
  have reached : (marking ring [⟨0, 0⟩]).drain.isMarked ⟨2, 0⟩ := by decide +kernel
  have lost : ¬(marking ring [⟨0, 0⟩]).drain.isMarked ⟨1, 0⟩ := by decide +kernel
  have before : (marking ring [⟨0, 0⟩]).marked = 1 := by decide +kernel
  have after : (marking ring [⟨0, 0⟩]).drain.marked = 2 := by decide +kernel
  rw [before, after] at count
  refine ⟨sound, reached, lost, by omega, pushed, ((run pushed _).mpr ⟨rfl, rfl⟩).1, ?_⟩
  exact List.nodup_append'.mpr ⟨(states ring [⟨0, 0⟩]).2, nodup, apart⟩

end Tracer

end MarkSweep

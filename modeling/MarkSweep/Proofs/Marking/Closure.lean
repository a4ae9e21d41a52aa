import MarkSweep.Marking.Tracer
import MarkSweep.Proofs.Heap.Marks

namespace MarkSweep

inductive Heap.Reach (h : Heap) (roots : Ref → Prop) : Ref → Prop where
  | root {r : Ref} : roots r → h.isLive r → Reach h roots r
  | edge {r s : Ref} : Reach h roots r → s ∈ h.edges r → h.isLive s → Reach h roots s

namespace Heap.Reach

theorem isLive {h : Heap} {roots : Ref → Prop} {r : Ref} (hr : h.Reach roots r) : h.isLive r := by
  cases hr with
  | root _ hl => exact hl
  | edge _ _ hl => exact hl

theorem mono {h : Heap} {roots others : Ref → Prop} {s : Ref}
    (le : ∀ r, roots r → h.isLive r → h.Reach others r) (hs : h.Reach roots s) :
    h.Reach others s := by
  induction hs with
  | root hr hl => exact le _ hr hl
  | edge _ he hl ih => exact ih.edge he hl

theorem congr {h h' : Heap} {roots : Ref → Prop} {s : Ref} (e : h'.clearMarks = h.clearMarks)
    (hs : h.Reach roots s) : h'.Reach roots s := by
  induction hs with
  | root hr hl => exact .root hr (by rwa [isLive_congr e])
  | edge _ he hl ih => exact ih.edge (by rwa [edges_congr e]) (by rwa [isLive_congr e])

end Heap.Reach

namespace Tracer

theorem clearMarks_mark (t : Tracer) (r : Ref) :
    (t.mark r).heap.clearMarks = t.heap.clearMarks := by
  rw [mark]
  split
  case h_1 heap hm => exact Heap.clearMarks_mark? hm
  case h_2 => rfl

theorem clearMarks_markAll (t : Tracer) (rs : List Ref) :
    (t.markAll rs).heap.clearMarks = t.heap.clearMarks := by
  induction rs generalizing t with
  | nil => rfl
  | cons r rs ih => exact (ih (t.mark r)).trans (clearMarks_mark t r)

theorem clearMarks_drain (t : Tracer) : t.drain.heap.clearMarks = t.heap.clearMarks := by
  fun_induction drain t with
  | case1 t h => rfl
  | case2 t r rest h ih => rw [ih, clearMarks_markAll]

theorem isLive_of_isMarked {t : Tracer} {r : Ref} (hm : t.isMarked r) : t.heap.isLive r :=
  Heap.isLive_of_isMarked hm

theorem isMarked_mark (t : Tracer) (r s : Ref) :
    (t.mark r).isMarked s ↔ t.isMarked s ∨ s = r ∧ t.heap.isLive r := by
  rw [mark]
  cases hm : t.heap.mark? r with
  | none =>
    have already := Heap.mark?_eq_none_iff.mp hm
    constructor
    · exact .inl
    · rintro (hs | ⟨rfl, hl⟩)
      · exact hs
      · exact already hl
  | some heap =>
    obtain ⟨⟨x, hx, -⟩, -⟩ := Heap.mark?_eq_some_iff.mp hm
    have live : t.heap.isLive r := by simp [Heap.isLive, hx]
    simp only [isMarked, live, and_true]
    exact Heap.isMarked_of_mark? hm

theorem isMarked_markAll (t : Tracer) (rs : List Ref) (s : Ref) :
    (t.markAll rs).isMarked s ↔ t.isMarked s ∨ s ∈ rs ∧ t.heap.isLive s := by
  induction rs generalizing t with
  | nil => simp [markAll]
  | cons r rs ih =>
    rw [markAll, List.foldl_cons, ← markAll, ih, isMarked_mark,
      Heap.isLive_congr (clearMarks_mark t r), List.mem_cons]
    constructor
    · rintro ((hs | ⟨rfl, hl⟩) | ⟨hs, hl⟩)
      · exact .inl hs
      · exact .inr ⟨.inl rfl, hl⟩
      · exact .inr ⟨.inr hs, hl⟩
    · rintro (hs | ⟨rfl | hs, hl⟩)
      · exact .inl (.inl hs)
      · exact .inl (.inr ⟨rfl, hl⟩)
      · exact .inr ⟨hs, hl⟩

theorem mem_worklist_mark (t : Tracer) (r s : Ref) :
    s ∈ (t.mark r).worklist ↔ s ∈ t.worklist ∨ (t.mark r).isMarked s ∧ ¬t.isMarked s := by
  rw [mark]
  cases hm : t.heap.mark? r with
  | none => simp
  | some heap =>
    obtain ⟨⟨x, hx, hu⟩, -⟩ := Heap.mark?_eq_some_iff.mp hm
    have fresh : t.isMarked r = false := by simp [isMarked, Heap.isMarked, hx, hu]
    have marks : heap.isMarked s ↔ t.heap.isMarked s ∨ s = r := Heap.isMarked_of_mark? hm
    simp only [List.mem_cons, isMarked, marks] at fresh ⊢
    by_cases hs : s = r
    · subst hs
      simp [fresh]
    · simp [hs]

theorem mem_worklist_markAll (t : Tracer) (rs : List Ref) (s : Ref) :
    s ∈ (t.markAll rs).worklist ↔ s ∈ t.worklist ∨ (t.markAll rs).isMarked s ∧ ¬t.isMarked s := by
  induction rs generalizing t with
  | nil => simp [markAll]
  | cons r rs ih =>
    rw [markAll, List.foldl_cons, ← markAll, ih, mem_worklist_mark]
    have grows : t.isMarked s → (t.mark r).isMarked s := fun hs =>
      (isMarked_mark t r s).mpr (.inl hs)
    have grows' : (t.mark r).isMarked s → ((t.mark r).markAll rs).isMarked s := fun hs =>
      (isMarked_markAll _ rs s).mpr (.inl hs)
    tauto

/-- The nodes on the worklist are marked, and so is all that a marked node off it leads to. -/
structure Tricolour (t : Tracer) : Prop where
  grey : ∀ r ∈ t.worklist, t.isMarked r
  black : ∀ r, t.isMarked r → r ∈ t.worklist ∨ ∀ s ∈ t.heap.edges r, t.heap.isLive s → t.isMarked s

theorem tricolour_markAll {t : Tracer} {rs : List Ref} (grey : ∀ r ∈ t.worklist, t.isMarked r)
    (black : ∀ r, t.isMarked r →
      r ∈ t.worklist ∨ ∀ s ∈ t.heap.edges r, t.heap.isLive s → t.isMarked s ∨ s ∈ rs) :
    (t.markAll rs).Tricolour where
  grey r hr := by
    rcases (mem_worklist_markAll t rs r).mp hr with hr | ⟨hr, -⟩
    · exact (isMarked_markAll t rs r).mpr (.inl (grey r hr))
    · exact hr
  black r hr := by
    rw [mem_worklist_markAll, Heap.edges_congr (clearMarks_markAll t rs)]
    by_cases old : t.isMarked r
    · rcases black r old with hw | hs
      · exact .inl (.inl hw)
      · refine .inr fun s he hl => (isMarked_markAll t rs s).mpr ?_
        rw [Heap.isLive_congr (clearMarks_markAll t rs)] at hl
        rcases hs s he hl with marked | member
        · exact .inl marked
        · exact .inr ⟨member, hl⟩
    · exact .inl (.inr ⟨hr, old⟩)

theorem Tricolour.markAll {t : Tracer} (ht : t.Tricolour) (rs : List Ref) :
    (t.markAll rs).Tricolour := by
  apply tricolour_markAll ht.grey
  intro r hr
  exact (ht.black r hr).imp_right fun hs s he hl => .inl (hs s he hl)

theorem Tricolour.visit {t : Tracer} (ht : t.Tricolour) {r : Ref} {rest : List Ref}
    (hw : t.worklist = r :: rest) :
    ({ t with worklist := rest }.markAll (t.heap.edges r)).Tricolour := by
  have grey := ht.grey
  have black := ht.black
  simp only [hw, List.mem_cons] at grey black
  apply tricolour_markAll
  · intro s hs
    exact grey s (.inr hs)
  · intro s hs
    rcases black s hs with (rfl | hm) | hm
    · exact .inr fun u he _ => .inr he
    · exact .inl hm
    · exact .inr fun u he hl => .inl (hm u he hl)

theorem Tricolour.drain {t : Tracer} (ht : t.Tricolour) : t.drain.Tricolour := by
  fun_induction Tracer.drain t with
  | case1 t h => exact ht
  | case2 t r rest h ih => exact ih (ht.visit h)

theorem isMarked_drain {t : Tracer} {r : Ref} (hr : t.isMarked r) : t.drain.isMarked r := by
  fun_induction drain t with
  | case1 t h => exact hr
  | case2 t s rest h ih => exact ih ((isMarked_markAll _ _ r).mpr (.inl hr))

theorem Tricolour.reach_of_isMarked_drain {t : Tracer} (ht : t.Tricolour) {s : Ref}
    (hs : t.drain.isMarked s) : t.heap.Reach (fun r => t.isMarked r) s := by
  fun_induction Tracer.drain t with
  | case1 t h => exact .root hs (isLive_of_isMarked hs)
  | case2 t r rest h ih =>
    have grey : t.isMarked r := ht.grey r (by simp [h])
    refine ((ih (ht.visit h) hs).congr (clearMarks_markAll _ _).symm).mono ?_
    intro u hu hl
    rcases (isMarked_markAll _ _ u).mp hu with hu | ⟨hu, hl⟩
    · exact .root hu hl
    · exact (Heap.Reach.root grey (isLive_of_isMarked grey)).edge hu hl

theorem Tricolour.isMarked_drain_iff {t : Tracer} (ht : t.Tricolour) {s : Ref} :
    t.drain.isMarked s ↔ t.heap.Reach (fun r => t.isMarked r) s := by
  constructor
  · exact ht.reach_of_isMarked_drain
  · intro hs
    induction hs with
    | root hr _ => exact isMarked_drain hr
    | @edge r s _ he hl ih =>
      rcases ht.drain.black r ih with hw | hm
      · simp [worklist_drain] at hw
      · rw [Heap.edges_congr (clearMarks_drain t)] at hm
        exact hm s he (by rwa [Heap.isLive_congr (clearMarks_drain t)])

end Tracer

end MarkSweep

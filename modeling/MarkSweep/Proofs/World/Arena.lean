import MarkSweep.Proofs.Collector.Constancy
import MarkSweep.Proofs.Heap.Capacity
import MarkSweep.Proofs.World.Order

/-!
The arenas of a world. Whatever is asked of a collector comes down to operations on its heap that
keep the sizes of payloads, so that its arena only ever grows to what was resident at once.
-/

namespace MarkSweep

namespace Heap

def Evolves (h h' : Heap) : Prop := ∃ ops, h.Steady ops ∧ h.after ops = h'

variable {h h' h'' : Heap}

namespace Evolves

theorem refl (h : Heap) : h.Evolves h := ⟨[], trivial, rfl⟩

theorem of_eq (e : h' = h) : h.Evolves h' := by
  subst e
  exact refl _

theorem step {o : Op} (kept : o.KeepsSize h) : h.Evolves (o.apply h) := ⟨[o], ⟨kept, trivial⟩, rfl⟩

theorem trans (first : h.Evolves h') (second : h'.Evolves h'') : h.Evolves h'' := by
  obtain ⟨ops, steady, rfl⟩ := first
  obtain ⟨more, steady', rfl⟩ := second
  exact ⟨ops ++ more, (steady_append h ops more).mpr ⟨steady, steady'⟩, List.foldl_append⟩

end Evolves

theorem modify_congr {r : Ref} {f g : Resident → Resident}
    (same : ∀ x, h.resident? r = some x → f x = g x) : h.modify r f = h.modify r g := by
  have places : (h.modify r f).places = (h.modify r g).places := by
    apply Array.ext_getElem?
    intro i
    simp only [modify, Array.getElem?_modify]
    split
    case isFalse => rfl
    case isTrue place =>
      subst place
      cases hp : h.places[r.index]? with
      | none => rfl
      | some p =>
        by_cases hg : p.generation = r.generation
        · cases hx : p.resident with
          | none => simp [hx]
          | some x =>
            have agree := same x (resident?_eq_some_iff.mpr ⟨p, hp, hg, hx⟩)
            simp [hx, agree]
        · simp [hg]
  exact congrArg (fun places => { h with places }) places

theorem modify_id (h : Heap) (r : Ref) : h.modify r id = h := by
  have places : (h.modify r id).places = h.places := by
    apply Array.ext_getElem?
    intro i
    simp only [modify, Array.getElem?_modify, Option.map_id]
    split
    · cases h.places[i]? <;> simp
    · rfl
  exact congrArg (fun places => { h with places }) places

theorem evolves_modify {r : Ref} {f : Resident → Resident}
    (resident : ∀ x, h.resident? r = some x → f x = x ∨
      (∃ header, f x = { x with header }) ∨
      ∃ object : Object, object.footprint = x.object.footprint ∧ f x = { x with object }) :
    h.Evolves (h.modify r f) := by
  cases hx : h.resident? r with
  | none =>
    apply Evolves.of_eq
    exact (modify_congr (by simp [hx])).trans (h.modify_id r)
  | some x =>
    have only {g : Resident → Resident} (same : f x = g x) : h.modify r f = h.modify r g := by
      apply modify_congr
      intro y hy
      cases hx.symm.trans hy
      exact same
    rcases resident x hx with e | ⟨header, e⟩ | ⟨object, size, e⟩
    · exact .of_eq ((only e).trans (h.modify_id r))
    · rw [only (g := fun x => { x with header }) e]
      exact .step (o := .setHeader r header) trivial
    · rw [only (g := fun x => { x with object }) e]
      apply Evolves.step (o := .setObject r object)
      intro old hold
      simp only [object?, hx, Option.map_some, Option.mem_some_iff] at hold
      exact hold ▸ size

theorem evolves_modifyHeader (h : Heap) (r : Ref) (f : Header → Header) :
    h.Evolves (h.modifyHeader r f) :=
  evolves_modify fun _ _ => .inr (.inl ⟨_, rfl⟩)

theorem evolves_writeSlot (h : Heap) (f : Field) (value : Slot) :
    h.Evolves (h.writeSlot f value) := by
  apply evolves_modify
  rintro ⟨header, object⟩ -
  cases object with
  | chunk bytes => exact .inl rfl
  | vector slots =>
    refine .inr (.inr ⟨.vector (slots.setIfInBounds f.index value), ?_, rfl⟩)
    exact Object.footprint_congr rfl Array.size_setIfInBounds

theorem evolves_restore (h : Heap) (entries : List Entry) : h.Evolves (h.restore entries) := by
  induction entries generalizing h with
  | nil => exact .refl h
  | cons e entries ih => exact (h.evolves_writeSlot e.field e.prior).trans (ih _)

end Heap

namespace Tracer

theorem evolves_mark (t : Tracer) (r : Ref) : t.heap.Evolves (t.mark r).heap := by
  have marked : (t.mark r).heap = (Heap.Op.mark r).apply t.heap := by
    rw [mark, Heap.Op.apply]
    cases t.heap.mark? r <;> rfl
  rw [marked]
  exact .step trivial

theorem evolves_markAll (t : Tracer) (rs : List Ref) : t.heap.Evolves (t.markAll rs).heap := by
  induction rs generalizing t with
  | nil => exact .refl _
  | cons r rs ih => exact (t.evolves_mark r).trans (ih _)

theorem evolves_drain (t : Tracer) : t.heap.Evolves t.drain.heap := by
  fun_induction drain t with
  | case1 t h => exact .refl _
  | case2 t r rest h ih => exact (evolves_markAll { t with worklist := rest } _).trans ih

end Tracer

namespace Collector

theorem evolves_collect (c : Collector) (p : Process) (trigger : Trigger) (pinned : Option Ref) :
    c.heap.Evolves (c.collect p trigger pinned).2.1.heap := by
  have cleared : c.heap.Evolves c.heap.clearMarks := .step (o := .clearMarks) trivial
  rcases collect_cases c p trigger pinned with ⟨_, e⟩ | ⟨_, e⟩ | ⟨free, _, e⟩
  · rw [e]
    exact .refl _
  · rw [e]
    exact cleared
  · rw [e]
    have marked := (Tracer.evolves_markAll { heap := c.heap.clearMarks }
      (c.rootNodes p.markers pinned)).trans (Tracer.evolves_drain _)
    rw [← (markPhase_of_free free pinned).1] at marked
    exact (cleared.trans marked).trans (.step (o := .sweep) trivial)

theorem Move.evolves {c c' : Collector} (move : c.Move c') : c.heap.Evolves c'.heap := by
  cases move with
  | rest heap => exact .of_eq heap
  | allocate p header object heap =>
    obtain ⟨placed, place, -, outcome⟩ := c.allocate_cases p header object
    have grown : c.heap.Evolves placed.heap := by
      rw [place]
      exact .step (o := .allocate header object) trivial
    rw [heap]
    rcases outcome with e | ⟨trigger, pinned, e⟩
    · rwa [e]
    · rw [e]
      exact grown.trans (placed.evolves_collect p trigger pinned)
  | collect p trigger pinned => exact c.evolves_collect p trigger pinned

theorem Edit.evolves_apply (c : Collector) (e : Edit) : c.heap.Evolves (e.apply c).heap := by
  rcases heap_cases c e with ⟨r, start, patch, rfl⟩ | ⟨-, ⟨entries, h⟩ | ⟨r, f, -, h⟩⟩
  · rcases writeChunk_cases c r start patch with e | ⟨bytes, ho, e⟩
    · rw [e]
      exact .refl _
    · rw [e]
      apply Heap.Evolves.step (o := .setObject r _)
      intro old hold
      rw [ho] at hold
      cases hold
      exact Object.footprint_congr rfl (size_overwrite bytes start patch)
  · rw [h]
    exact c.heap.evolves_restore entries
  · rw [h]
    exact c.heap.evolves_modifyHeader r f

end Collector

namespace World

variable {w : World}

theorem evolves_apply (w : World) (o : Op) (id : CollectorId) :
    (w.collector id).heap.Evolves ((o.apply w).collector id).heap := by
  by_cases inside : id < w.collectors.size
  · rcases apply_cases inside o with ⟨e, -, h⟩ | move
    · rw [h]
      exact Collector.Edit.evolves_apply _ e
    · exact move.evolves
  · -- A collector that does not exist has an empty heap, and begins with one.
    have outside := Nat.not_lt.mp inside
    apply Heap.Evolves.of_eq
    rw [collector_of_size_le outside]
    rcases collector_apply_of_size_le outside o with e | ⟨config, e⟩
    · rw [e]
    · rw [e]
      rfl

theorem evolves_foldl (w : World) (ops : List Op) (id : CollectorId) :
    (w.collector id).heap.Evolves ((ops.foldl Op.apply w).collector id).heap := by
  induction ops generalizing w with
  | nil => exact .refl _
  | cons o ops ih => exact (evolves_apply w o id).trans (ih (o.apply w))

theorem Act.evolves_apply (w : World) (a : Act) (id : CollectorId) :
    (w.collector id).heap.Evolves ((a.apply w).collector id).heap := by
  obtain ⟨ops, e⟩ := a.exists_ops w
  rw [e]
  exact evolves_foldl w ops id

theorem exists_steady (acts : List Act) (id : CollectorId) :
    ∃ ops, Heap.empty.Steady ops ∧ ((play acts).collector id).heap = Heap.run ops := by
  obtain ⟨ops, e⟩ := exists_run_eq_play acts
  obtain ⟨heapOps, steady, same⟩ := evolves_foldl {} ops id
  exact ⟨heapOps, steady, by rw [e]; exact same.symm⟩

/-- Under operations that keep the sizes of payloads, as all that collectors perform do, the blocks
of the residents are what is outstanding, no place changes its size class, and there are exactly
as many places as each class ever had residents at once. -/
theorem arena_grows_to_peak :
    (∀ ops, Heap.empty.Steady ops →
      (Heap.run ops).outstanding =
        ((Heap.run ops).residents.map fun x => blockSize x.2.object.footprint).sum ∧
      (∀ first second r s x y, first <+: ops → second <+: ops →
        (Heap.run first).resident? r = some x → (Heap.run second).resident? s = some y →
        r.index = s.index → sizeClass? x.object.footprint = sizeClass? y.object.footprint) ∧
      ∃ peak : Fin freeListCount → Nat,
        (∀ l, IsGreatest {n | ∃ before, before <+: ops ∧ (Heap.run before).residentsOf l = n}
          (peak l)) ∧
        (Heap.run ops).capacity = ∑ l, peak l) ∧
    ∀ acts id, ∃ ops, Heap.empty.Steady ops ∧ ((play acts).collector id).heap = Heap.run ops ∧
      ∀ a, ∃ more, (Heap.run ops).Steady more ∧
        ((play (acts ++ [a])).collector id).heap = (Heap.run ops).after more := by
  refine ⟨fun ops steady => ⟨?_, ?_, ?_⟩, fun acts id => ?_⟩
  · rw [Heap.outstanding_run steady, Heap.sizes, List.map_map]
    rfl
  · intro first second r s x y hf hs hx hy place
    exact Heap.sizeClass?_eq_of_index_eq steady hf hs hx hy place
  · exact ⟨_, Heap.isGreatest_room steady, Heap.capacity_run steady⟩
  · obtain ⟨ops, steady, same⟩ := exists_steady acts id
    refine ⟨ops, steady, same, fun a => ?_⟩
    obtain ⟨more, kept, e⟩ := a.evolves_apply (play acts) id
    rw [same] at kept e
    exact ⟨more, kept, by rw [play_concat, e]⟩

def refilled : List Heap.Op :=
  [.allocate (.ofKind .chunk) (.zeros 4), .allocate (.ofKind .chunk) (.zeros 4),
    .setObject ⟨0, 0⟩ (.chunk ⟨#[1, 2, 3, 4]⟩), .sweep, .allocate (.ofKind .chunk) (.zeros 10)]

theorem arena_grows_to_peak_refilled :
    Heap.empty.Steady refilled ∧ (Heap.run refilled).outstanding = 32 ∧
      ((Heap.run refilled).residents.map fun x => blockSize x.2.object.footprint).sum = 32 ∧
      ∃ peak : Fin freeListCount → Nat,
        (∀ l, IsGreatest
          {n | ∃ before, before <+: refilled ∧ (Heap.run before).residentsOf l = n} (peak l)) ∧
        ∑ l, peak l = 2 := by
  have steady : Heap.empty.Steady refilled := by
    refine ⟨trivial, trivial, ?_, trivial, trivial, trivial⟩
    rintro old ⟨⟩
    rfl
  obtain ⟨bytes, -, peak, greatest, capacity⟩ := arena_grows_to_peak.1 refilled steady
  have outstanding : (Heap.run refilled).outstanding = 32 := by decide +kernel
  have places : (Heap.run refilled).capacity = 2 := by decide +kernel
  exact ⟨steady, outstanding, bytes.symm.trans outstanding, peak, greatest,
    capacity.symm.trans places⟩

end World

end MarkSweep

import MarkSweep.Proofs.Marking.Roots

namespace MarkSweep

namespace Traced

inductive Visits : Traced → Traced → Prop where
  | self (v : Traced) : Visits v v
  | part {parts : List Traced} {v u : Traced} : v ∈ parts → Visits v u → Visits (group parts) u
  | content {readers : Nat} {v u : Traced} : Visits v u → Visits (cell (.shared readers) v) u

def IsObstructed (v : Traced) : Prop := ∃ content, v.Visits (cell .exclusive content)

theorem not_isObstructed_of_leaf {v : Traced} (group_ne : ∀ parts, v ≠ group parts)
    (cell_ne : ∀ borrow u, v ≠ cell borrow u) : ¬v.IsObstructed := by
  rintro ⟨content, visits⟩
  cases visits with
  | self => exact cell_ne _ _ rfl
  | part => exact group_ne _ rfl
  | content => exact cell_ne _ _ rfl

theorem isObstructed_group {parts : List Traced} :
    (group parts).IsObstructed ↔ ∃ v ∈ parts, v.IsObstructed := by
  constructor
  · rintro ⟨content, _ | ⟨hv, visits⟩⟩
    exact ⟨_, hv, content, visits⟩
  · rintro ⟨v, hv, content, visits⟩
    exact ⟨content, .part hv visits⟩

theorem isObstructed_cell {borrow : Borrow} {v : Traced} :
    (cell borrow v).IsObstructed ↔ borrow = .exclusive ∨ v.IsObstructed := by
  cases borrow with
  | exclusive => exact ⟨fun _ => .inl rfl, fun _ => ⟨v, .self _⟩⟩
  | shared readers =>
    constructor
    · rintro ⟨content, _ | _ | visits⟩
      exact .inr ⟨content, visits⟩
    · rintro (⟨⟨⟩⟩ | ⟨content, visits⟩)
      exact ⟨content, .content visits⟩

mutual

theorem isBlocked_iff (v : Traced) : v.isBlocked ↔ v.IsObstructed := by
  match v with
  | inert | node _ | slot _ | skipped _ => simp [isBlocked, not_isObstructed_of_leaf]
  | group parts => rw [isBlocked, isBlockedAny_iff parts, isObstructed_group]
  | cell .exclusive v => simp [isBlocked, isObstructed_cell]
  | cell (.shared n) v => simp [isBlocked, isObstructed_cell, isBlocked_iff v]

theorem isBlockedAny_iff (vs : List Traced) : isBlockedAny vs ↔ ∃ v ∈ vs, v.IsObstructed := by
  match vs with
  | [] => simp [isBlockedAny]
  | v :: vs => simp [isBlockedAny, isBlocked_iff v, isBlockedAny_iff vs]

end

end Traced

namespace Marker

def IsObstructed : Marker → Prop
  | rooted borrow content => (Traced.cell borrow content).IsObstructed
  | table borrow entries => (Traced.cell borrow (tableContent entries)).IsObstructed
  | probe p => p.busyOnMark

theorem blocks_iff (m : Marker) : m.blocks ↔ m.IsObstructed := by
  cases m with
  | rooted borrow content => exact Traced.isBlocked_iff _
  | table borrow entries => exact Traced.isBlocked_iff _
  | probe p => rfl

end Marker

namespace Collector

def IsBusy (c : Collector) (p : Process) : Prop :=
  ∃ key id, c.roots.get? key = some id ∧ (p.marker id).isBusy

def IsObstructed (c : Collector) (p : Process) : Prop :=
  ∃ key id, c.roots.get? key = some id ∧ (p.marker id).IsObstructed

theorem any_roots_iff (c : Collector) (f : MarkerId → Bool) :
    c.roots.values.any f ↔ ∃ key id, c.roots.get? key = some id ∧ f id := by
  rw [List.any_eq_true]
  constructor
  · rintro ⟨id, hid, hf⟩
    obtain ⟨key, hkey⟩ := Registry.mem_values.mp hid
    exact ⟨key, id, hkey, hf⟩
  · rintro ⟨key, id, hkey, hf⟩
    exact ⟨id, Registry.mem_values.mpr ⟨key, hkey⟩, hf⟩

theorem isBusy_iff (c : Collector) (p : Process) :
    c.IsBusy p ↔ c.roots.values.any fun id => (p.marker id).isBusy :=
  (c.any_roots_iff _).symm

theorem isBlocked_iff (c : Collector) (p : Process) :
    c.isBlocked p.markers ↔ c.IsObstructed p := by
  rw [isBlocked, any_roots_iff]
  simp only [Marker.blocks_iff, IsObstructed, Process.marker]

end Collector

end MarkSweep

import MarkSweep.Marking.Aggregate
import MarkSweep.Proofs.Marking.Obstruction

namespace MarkSweep

namespace Traced

theorem nodesAll_eq_flatMap (vs : List Traced) : nodesAll vs = vs.flatMap nodes := by
  induction vs with
  | nil => rfl
  | cons v vs ih => rw [nodesAll, ih, List.flatMap_cons]

theorem isBlockedAny_eq_any (vs : List Traced) : isBlockedAny vs = vs.any isBlocked := by
  induction vs with
  | nil => rfl
  | cons v vs ih => rw [isBlockedAny, ih, List.any_cons]

end Traced

namespace Aggregate

def children : Aggregate → List Aggregate
  | plain | node _ | slot _ | refCell .exclusive _ => []
  | wrapped _ content | refCell (.shared _) content => [content]
  | option content => content.toList
  | result (.ok content) | result (.error content) => [content]
  | sequence _ items => items
  | map _ entries => entries.flatMap fun (key, value) => [key, value]
  | derived fields => fields.filterMap fun (skipped, content) =>
    if skipped then none else some content

/-- Tracing the first value comes to the second one. -/
inductive Visits : Aggregate → Aggregate → Prop where
  | self (a : Aggregate) : Visits a a
  | child {a b c : Aggregate} : b ∈ a.children → Visits b c → Visits a c

def Holds (a : Aggregate) (r : Ref) : Prop := a.Visits (node r) ∨ a.Visits (slot (.node r))

def IsObstructed (a : Aggregate) : Prop := ∃ content, a.Visits (refCell .exclusive content)

theorem sizeOf_lt_of_mem_children {a b : Aggregate} (h : b ∈ a.children) : sizeOf b < sizeOf a := by
  cases a with
  | plain | node | slot => cases h
  | wrapped _ content =>
    obtain rfl := List.mem_singleton.mp h
    rw [wrapped.sizeOf_spec]
    omega
  | option content =>
    obtain rfl := Option.mem_toList.mp h
    rw [option.sizeOf_spec, Option.some.sizeOf_spec]
    omega
  | result content =>
    cases content <;> obtain rfl := List.mem_singleton.mp h <;> simp <;> omega
  | sequence _ items =>
    have smaller : sizeOf b < sizeOf items := List.sizeOf_lt_of_mem h
    rw [sequence.sizeOf_spec]
    omega
  | map _ entries =>
    obtain ⟨⟨key, value⟩, he, hb⟩ := List.mem_flatMap.mp h
    have smaller := List.sizeOf_lt_of_mem he
    rw [Prod.mk.sizeOf_spec] at smaller
    rw [map.sizeOf_spec]
    rcases List.mem_pair.mp hb with rfl | rfl <;> omega
  | refCell borrow content =>
    cases borrow with
    | exclusive => cases h
    | shared =>
      obtain rfl := List.mem_singleton.mp h
      rw [refCell.sizeOf_spec]
      omega
  | derived fields =>
    obtain ⟨⟨skipped, content⟩, hf, hb⟩ := List.mem_filterMap.mp h
    have smaller := List.sizeOf_lt_of_mem hf
    rw [Prod.mk.sizeOf_spec] at smaller
    rw [derived.sizeOf_spec]
    cases skipped with
    | true => cases hb
    | false =>
      cases hb
      omega

theorem children_induction {P : Aggregate → Prop} (step : ∀ a, (∀ b ∈ a.children, P b) → P a)
    (a : Aggregate) : P a :=
  step a fun b _ => children_induction step b
termination_by sizeOf a
decreasing_by exact sizeOf_lt_of_mem_children ‹_›

def own? : Aggregate → Option Ref
  | node r => some r
  | slot s => s.node?
  | _ => none

def isSealed : Aggregate → Bool
  | refCell .exclusive _ => true
  | _ => false

theorem tracedItems_eq (items : List Aggregate) : tracedItems items = items.map traced := by
  induction items with
  | nil => rfl
  | cons item items ih => rw [tracedItems, ih, List.map_cons]

theorem tracedEntries_eq (entries : List (Aggregate × Aggregate)) :
    tracedEntries entries = entries.map fun e => .group [e.1.traced, e.2.traced] := by
  induction entries with
  | nil => rfl
  | cons e entries ih => rw [tracedEntries, ih, List.map_cons]

theorem tracedFields_eq (fields : List (Bool × Aggregate)) : tracedFields fields =
    fields.map fun f => if f.1 then .skipped f.2.traced else f.2.traced := by
  induction fields with
  | nil => rfl
  | cons f fields ih =>
    obtain ⟨skipped, content⟩ := f
    cases skipped <;> rw [tracedFields, ih, List.map_cons] <;> rfl

theorem nodes_traced (a : Aggregate) :
    a.traced.nodes = a.own?.toList ++ a.children.flatMap fun b => b.traced.nodes := by
  cases a with
  | plain | node | slot => simp [traced, Traced.nodes, own?, children]
  | wrapped _ content => simp [traced, own?, children]
  | option content => cases content <;> simp [traced, Traced.nodes, own?, children]
  | result content => cases content <;> simp [traced, own?, children]
  | sequence _ items =>
    simp [traced, Traced.nodes, own?, children, tracedItems_eq, Traced.nodesAll_eq_flatMap,
      List.flatMap_map]
  | map _ entries =>
    simp [traced, Traced.nodes, own?, children, tracedEntries_eq, Traced.nodesAll_eq_flatMap,
      List.flatMap_map, List.flatMap_assoc]
  | refCell borrow content => cases borrow <;> simp [traced, Traced.nodes, own?, children]
  | derived fields =>
    simp only [traced, Traced.nodes, own?, children, tracedFields_eq, Traced.nodesAll_eq_flatMap,
      List.flatMap_map, Option.toList_none, List.nil_append]
    induction fields with
    | nil => rfl
    | cons f fields ih =>
      obtain ⟨skipped, content⟩ := f
      cases skipped <;> simp [ih, Traced.nodes]

theorem isBlocked_traced (a : Aggregate) :
    a.traced.isBlocked = (a.isSealed || a.children.any fun b => b.traced.isBlocked) := by
  cases a with
  | plain | node | slot => simp [traced, Traced.isBlocked, isSealed, children]
  | wrapped _ content => simp [traced, isSealed, children]
  | option content => cases content <;> simp [traced, Traced.isBlocked, isSealed, children]
  | result content => cases content <;> simp [traced, isSealed, children]
  | sequence _ items =>
    simp [traced, Traced.isBlocked, isSealed, children, tracedItems_eq, Traced.isBlockedAny_eq_any,
      List.any_map, Function.comp_def]
  | map _ entries =>
    simp [traced, Traced.isBlocked, isSealed, children, tracedEntries_eq,
      Traced.isBlockedAny_eq_any, List.any_map, List.any_flatMap, Function.comp_def]
  | refCell borrow content =>
    cases borrow <;> simp [traced, Traced.isBlocked, isSealed, children]
  | derived fields =>
    simp only [traced, Traced.isBlocked, isSealed, children, tracedFields_eq,
      Traced.isBlockedAny_eq_any, List.any_map, Bool.false_or]
    induction fields with
    | nil => rfl
    | cons f fields ih =>
      obtain ⟨skipped, content⟩ := f
      cases skipped <;> simp [ih, Traced.isBlocked]

theorem visits_iff {a c : Aggregate} : a.Visits c ↔ a = c ∨ ∃ b ∈ a.children, b.Visits c := by
  constructor
  · rintro (_ | ⟨hb, visits⟩)
    · exact .inl rfl
    · exact .inr ⟨_, hb, visits⟩
  · rintro (rfl | ⟨b, hb, visits⟩)
    · exact .self a
    · exact .child hb visits

theorem holds_iff {a : Aggregate} {r : Ref} :
    a.Holds r ↔ a.own? = some r ∨ ∃ b ∈ a.children, b.Holds r := by
  have own : a.own? = some r ↔ a = node r ∨ a = slot (.node r) := by
    cases a <;> simp [own?, Slot.node?_eq_some_iff]
  simp only [Holds, visits_iff (a := a), own, and_or_left, exists_or]
  exact or_or_or_comm

theorem isObstructed_iff {a : Aggregate} :
    a.IsObstructed ↔ a.isSealed ∨ ∃ b ∈ a.children, b.IsObstructed := by
  have sealed : a.isSealed ↔ ∃ content, a = refCell .exclusive content := by
    cases a with
    | refCell borrow content => cases borrow <;> simp [isSealed]
    | _ => simp [isSealed]
  simp only [IsObstructed, visits_iff (a := a), sealed, exists_or]
  apply or_congr_right
  constructor
  · rintro ⟨content, b, hb, visits⟩
    exact ⟨b, hb, content, visits⟩
  · rintro ⟨b, hb, content, visits⟩
    exact ⟨content, b, hb, visits⟩

theorem mem_nodes_traced {a : Aggregate} {r : Ref} : r ∈ a.traced.nodes ↔ a.Holds r := by
  induction a using children_induction with
  | step a ih =>
    rw [nodes_traced, holds_iff, List.mem_append, Option.mem_toList, List.mem_flatMap]
    exact or_congr_right (exists_congr fun b => and_congr_right (ih b))

theorem isBlocked_traced_iff {a : Aggregate} : a.traced.isBlocked ↔ a.IsObstructed := by
  induction a using children_induction with
  | step a ih =>
    rw [isBlocked_traced, isObstructed_iff, Bool.or_eq_true, List.any_eq_true]
    exact or_congr_right (exists_congr fun b => and_congr_right (ih b))

theorem trace_eq (a : Aggregate) (t : Tracer) :
    a.trace t = { t.markAll a.traced.nodes with busy := t.busy || a.traced.isBlocked } := by
  rw [← trace_traced, Traced.trace_eq]

end Aggregate

end MarkSweep

import MarkSweep.Proofs.Collector.Survival
import MarkSweep.Proofs.Heap.Store

/-!
What allocations and collections leave as it is. They spare every vector that is still there after
them, what it holds, and what the trail may write back; and they keep the heap consistent.
-/

namespace MarkSweep

namespace Heap

theorem consistent_clearMarks_iff {h : Heap} : h.clearMarks.Consistent ↔ h.Consistent := by
  constructor
  · intro hh
    have volumes : h.places.map Place.volume = h.clearMarks.places.map Place.volume := by
      rw [Heap.clearMarks, Array.map_map]
      congr 1
      funext p
      exact (Place.volume_clearMark p).symm
    exact hh.congr volumes rfl rfl rfl
  · exact Consistent.clearMarks

theorem Consistent.of_clearMarks_eq {h h' : Heap} (hh : h.Consistent)
    (e : h'.clearMarks = h.clearMarks) : h'.Consistent := by
  rw [← consistent_clearMarks_iff, e]
  exact hh.clearMarks

theorem mem_edges {h : Heap} {r s : Ref} {slots : Array Slot}
    (ho : h.object? r = some (.vector slots)) : s ∈ h.edges r ↔ .node s ∈ slots := by
  simp only [edges, ho, Option.map_some, Option.getD_some, Object.edges, List.mem_filterMap,
    Array.mem_toList_iff, Slot.node?_eq_some_iff, exists_eq_right]

theorem exists_of_mem_edges {h : Heap} {r s : Ref} (hs : s ∈ h.edges r) :
    ∃ slots, h.object? r = some (.vector slots) := by
  rw [edges] at hs
  cases ho : h.object? r with
  | none =>
    rw [ho] at hs
    cases hs
  | some o =>
    rw [ho] at hs
    cases o with
    | chunk bytes => cases hs
    | vector slots => exact ⟨slots, rfl⟩

end Heap

namespace Collector

/-- From the first collector to the second the trail stays the same, vectors that are still there
hold what they held, and what they or the trail lead to is still there as well. -/
structure Spares (c c' : Collector) : Prop where
  trail : c'.trail = c.trail
  vectors : ∀ r slots, c.heap.object? r = some (.vector slots) → c'.isLive r →
    c'.heap.object? r = some (.vector slots)
  edges : ∀ r s, c'.isLive r → s ∈ c.heap.edges r → c.isLive s → c'.isLive s
  priors : ∀ e ∈ c.trail.entries, ∀ s, e.prior = .node s → c.isLive s → c'.isLive s

namespace Spares

variable {c c' : Collector}

theorem of_grows (trail : c'.trail = c.trail) (grows : ∀ r, c.isLive r → c'.isLive r)
    (vectors : ∀ r slots, c.heap.object? r = some (.vector slots) →
      c'.heap.object? r = some (.vector slots)) : c.Spares c' where
  trail := trail
  vectors r slots ho _ := vectors r slots ho
  edges _ s _ _ hl := grows s hl
  priors _ _ s _ hl := grows s hl

theorem of_marks (marks : c'.heap.clearMarks = c.heap.clearMarks) (trail : c'.trail = c.trail) :
    c.Spares c' := by
  apply of_grows trail
  · intro r hl
    exact (Heap.isLive_congr marks r).trans hl
  · intro r slots ho
    exact (Heap.object?_congr marks r).trans ho

theorem of_eq (heap : c'.heap = c.heap) (trail : c'.trail = c.trail) : c.Spares c' :=
  of_marks (congrArg Heap.clearMarks heap) trail

theorem of_eq_right {c'' : Collector} (h : c.Spares c'') (heap : c'.heap = c''.heap)
    (trail : c'.trail = c''.trail) : c.Spares c' where
  trail := trail.trans h.trail
  vectors r slots ho hl := by
    rw [isLive, heap] at hl
    rw [heap]
    exact h.vectors r slots ho hl
  edges r s hl he hs := by
    rw [isLive, heap] at hl ⊢
    exact h.edges r s hl he hs
  priors e he s hp hs := by
    rw [isLive, heap]
    exact h.priors e he s hp hs

theorem trans {c'' : Collector} (grows : ∀ r, c.isLive r → c'.isLive r) (first : c.Spares c')
    (second : c'.Spares c'') : c.Spares c'' where
  trail := second.trail.trans first.trail
  vectors r slots ho hl := by
    have live : c.isLive r := Heap.isLive_of_object? ho
    exact second.vectors r slots (first.vectors r slots ho (grows r live)) hl
  edges r s hl he hs := by
    obtain ⟨slots, ho⟩ := Heap.exists_of_mem_edges he
    have live : c.isLive r := Heap.isLive_of_object? ho
    have kept := first.vectors r slots ho (grows r live)
    exact second.edges r s hl ((Heap.mem_edges kept).mpr ((Heap.mem_edges ho).mp he)) (grows s hs)
  priors e he s hp hs := by
    rw [← first.trail] at he
    exact second.priors e he s hp (grows s hs)

end Spares

variable {c : Collector}

theorem spares_collect (c : Collector) (p : Process) (trigger : Trigger) (pinned : Option Ref) :
    c.Spares (c.collect p trigger pinned).2.1 := by
  rcases collect_cases c p trigger pinned with ⟨_, e⟩ | ⟨_, e⟩ | ⟨_, _, e⟩
  · rw [e]
    exact .of_eq rfl rfl
  · rw [e]
    exact .of_marks c.heap.clearMarks_clearMarks rfl
  · rw [e]
    refine ⟨rfl, ?_, ?_, ?_⟩
    · intro r slots ho hl
      rwa [object?_collect e hl]
    · intro r s hl he hs
      exact (isLive_collect e).mpr (((isLive_collect e).mp hl).edge he hs)
    · intro d hd s hp hs
      exact (isLive_collect e).mpr (.root (.inr (.inr (.inl ⟨d, hd, hp⟩))) hs)

theorem consistent_collect (hh : c.heap.Consistent) (p : Process) (trigger : Trigger)
    (pinned : Option Ref) : (c.collect p trigger pinned).2.1.heap.Consistent := by
  rcases collect_cases c p trigger pinned with ⟨_, e⟩ | ⟨_, e⟩ | ⟨_, _, e⟩
  · rw [e]
    exact hh
  · rw [e]
    exact hh.clearMarks
  · rw [e]
    exact (hh.of_clearMarks_eq (clearMarks_markPhase c p.markers pinned)).sweep

theorem allocate_cases (c : Collector) (p : Process) (header : Header) (object : Object) :
    ∃ placed : Collector, placed.heap = (c.heap.allocate header object).2 ∧
      placed.trail = c.trail ∧
      ((c.allocate p header object).2.1 = placed ∨ ∃ trigger pinned,
        (c.allocate p header object).2.1 = (placed.collect p trigger pinned).2.1) := by
  refine ⟨{ c with
    heap := (c.heap.allocate header object).2
    allocated := min maxWord (c.allocated +
      ((c.heap.allocate header object).2.outstanding - c.heap.outstanding)) }, rfl, rfl, ?_⟩
  simp only [allocate]
  split
  case h_1 => exact .inl rfl
  case h_2 trigger due =>
    split
    case isTrue => exact .inl rfl
    case isFalse =>
      refine .inr ⟨trigger, some (c.heap.allocate header object).1, ?_⟩
      split
      case h_1 e => rw [e]
      case h_2 e => rw [e]

theorem spares_allocate (hh : c.heap.Consistent) (p : Process) (header : Header)
    (object : Object) : c.Spares (c.allocate p header object).2.1 := by
  obtain ⟨placed, heap, trail, outcome⟩ := c.allocate_cases p header object
  have other (r : Ref) (hl : c.isLive r) : placed.heap.resident? r = c.heap.resident? r := by
    rw [heap]
    exact hh.resident?_allocate_of_isLive header object hl
  have grows (r : Ref) (hl : c.isLive r) : placed.isLive r := by
    rwa [isLive, Heap.isLive, other r hl]
  have spared : c.Spares placed := by
    apply Spares.of_grows trail grows
    intro r slots ho
    rwa [Heap.object?, other r (Heap.isLive_of_object? ho)]
  rcases outcome with e | ⟨trigger, pinned, e⟩
  · rwa [e]
  · rw [e]
    exact spared.trans grows (placed.spares_collect p trigger pinned)

theorem consistent_allocate (hh : c.heap.Consistent) (p : Process) (header : Header)
    (object : Object) : (c.allocate p header object).2.1.heap.Consistent := by
  obtain ⟨placed, heap, -, outcome⟩ := c.allocate_cases p header object
  have consistent : placed.heap.Consistent := by
    rw [heap]
    exact hh.allocate header object
  rcases outcome with e | ⟨trigger, pinned, e⟩
  · rwa [e]
  · rw [e]
    exact consistent_collect consistent p trigger pinned

theorem intern_cases (c : Collector) (p : Process) (text : String) :
    (c.intern p text).2.1 = c ∨
      ((c.intern p text).2.1.heap = (c.allocate p (.ofKind .string) (.chunk text.toUTF8)).2.1.heap ∧
        (c.intern p text).2.1.trail =
          (c.allocate p (.ofKind .string) (.chunk text.toUTF8)).2.1.trail) := by
  rw [intern]
  split
  · exact .inl rfl
  · exact .inr ⟨rfl, rfl⟩

inductive Move (c : Collector) : Collector → Prop where
  | rest {c' : Collector} : c'.heap = c.heap → c'.trail = c.trail → Move c c'
  | allocate {c' : Collector} (p : Process) (header : Header) (object : Object) :
    c'.heap = (c.allocate p header object).2.1.heap →
    c'.trail = (c.allocate p header object).2.1.trail → Move c c'
  | collect (p : Process) (trigger : Trigger) (pinned : Option Ref) :
    Move c (c.collect p trigger pinned).2.1

theorem Move.of_eq {c c' : Collector} (h : c' = c) : c.Move c' := by
  subst h
  exact .rest rfl rfl

theorem move_intern (c : Collector) (p : Process) (text : String) :
    c.Move (c.intern p text).2.1 := by
  rcases c.intern_cases p text with e | ⟨heap, trail⟩
  · exact .of_eq e
  · exact .allocate p _ _ heap trail

theorem move_tryTrigger (c : Collector) (p : Process) : c.Move (c.tryTrigger p).2.1 := by
  rw [tryTrigger]
  split
  · exact .of_eq rfl
  · exact .collect p .manual none

theorem Move.spares {c c' : Collector} (h : c.Move c') (hh : c.heap.Consistent) : c.Spares c' := by
  cases h with
  | rest heap trail => exact .of_eq heap trail
  | allocate p header object heap trail =>
    exact (spares_allocate hh p header object).of_eq_right heap trail
  | collect p trigger pinned => exact c.spares_collect p trigger pinned

theorem Move.consistent {c c' : Collector} (h : c.Move c') (hh : c.heap.Consistent) :
    c'.heap.Consistent := by
  cases h with
  | rest heap trail => rwa [heap]
  | allocate p header object heap trail =>
    rw [heap]
    exact consistent_allocate hh p header object
  | collect p trigger pinned => exact consistent_collect hh p trigger pinned

end Collector

end MarkSweep

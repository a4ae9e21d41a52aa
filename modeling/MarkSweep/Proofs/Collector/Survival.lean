import MarkSweep.Collector.Access
import MarkSweep.Proofs.Marking.Roots

namespace MarkSweep

namespace Heap

variable {h h' : Heap}

theorem resident?_congr (e : h'.clearMarks = h.clearMarks) (r : Ref) :
    (h'.resident? r).map Resident.clearMark = (h.resident? r).map Resident.clearMark := by
  rw [← resident?_clearMarks, e, resident?_clearMarks]

theorem resident?_sweep_eq_some_iff (e : h'.clearMarks = h.clearMarks) {r : Ref} {y : Resident} :
    h'.sweep.2.resident? r = some y ↔
      h'.isMarked r ∧ ∃ x, h.resident? r = some x ∧ y = x.clearMark := by
  have same := resident?_congr e r
  rw [resident?_sweep, isMarked]
  cases hx' : h'.resident? r with
  | none => simp
  | some x' =>
    rw [hx'] at same
    obtain ⟨x, hx, hc⟩ := Option.map_eq_some_iff.mp same.symm
    rw [Option.filter_some]
    cases hm : x'.header.isMarked with
    | false => simp [hm]
    | true => simp [hm, hx, hc, eq_comm]

end Heap

namespace Collector

theorem collect_cases (c : Collector) (p : Process) (trigger : Trigger) (pinned : Option Ref) :
    (∃ p', c.collect p trigger pinned = (.error .rootBusy, c, p')) ∨
    (∃ p', c.collect p trigger pinned =
      (.error .rootBusy, { c with heap := c.heap.clearMarks }, p')) ∨
    (c.isBlocked p.markers = false ∧ ∃ p', c.collect p trigger pinned =
      (.ok (c.sweepPhase (c.markPhase p.markers pinned) trigger p.clock).1,
        (c.sweepPhase (c.markPhase p.markers pinned) trigger p.clock).2, p')) := by
  rw [collect]
  split
  · exact .inl ⟨p, rfl⟩
  · simp only [busy_markPhase, clearMarks_markPhase]
    cases free : c.isBlocked p.markers with
    | true => exact .inr (.inl ⟨_, rfl⟩)
    | false => exact .inr (.inr ⟨rfl, _, rfl⟩)

section

variable {c c' : Collector} {p p' : Process} {trigger : Trigger} {pinned : Option Ref}
  {m : Metrics}

theorem collect_eq_ok (h : c.collect p trigger pinned = (.ok m, c', p')) :
    c.isBlocked p.markers = false ∧
      c' = (c.sweepPhase (c.markPhase p.markers pinned) trigger p.clock).2 := by
  rcases collect_cases c p trigger pinned with ⟨_, e⟩ | ⟨_, e⟩ | ⟨free, _, e⟩
  · rw [e] at h
    cases h
  · rw [e] at h
    cases h
  · rw [e] at h
    cases h
    exact ⟨free, rfl⟩

theorem metrics_collect (h : c.collect p trigger pinned = (.ok m, c', p')) :
    m = (c.sweepPhase (c.markPhase p.markers pinned) trigger p.clock).1 := by
  rcases collect_cases c p trigger pinned with ⟨_, e⟩ | ⟨_, e⟩ | ⟨_, _, e⟩
  · rw [e] at h
    cases h
  · rw [e] at h
    cases h
  · rw [e] at h
    cases h
    rfl

theorem resident?_collect (h : c.collect p trigger pinned = (.ok m, c', p')) {r : Ref}
    {y : Resident} :
    c'.heap.resident? r = some y ↔
      c.heap.Reach (c.IsRoot p pinned) r ∧ ∃ x, c.heap.resident? r = some x ∧ y = x.clearMark := by
  obtain ⟨free, rfl⟩ := collect_eq_ok h
  rw [← isMarked_markPhase free]
  exact Heap.resident?_sweep_eq_some_iff (clearMarks_markPhase c p.markers pinned)

theorem isLive_collect (h : c.collect p trigger pinned = (.ok m, c', p')) {r : Ref} :
    c'.isLive r ↔ c.heap.Reach (c.IsRoot p pinned) r := by
  rw [isLive, Heap.isLive, Option.isSome_iff_exists]
  constructor
  · rintro ⟨y, hy⟩
    exact ((resident?_collect h).mp hy).1
  · intro reach
    obtain ⟨x, hx⟩ := Option.isSome_iff_exists.mp reach.isLive
    exact ⟨_, (resident?_collect h).mpr ⟨reach, x, hx, rfl⟩⟩

theorem object?_collect (h : c.collect p trigger pinned = (.ok m, c', p')) {r : Ref}
    (hl : c'.isLive r) : c'.heap.object? r = c.heap.object? r := by
  obtain ⟨y, hy⟩ := Option.isSome_iff_exists.mp hl
  obtain ⟨-, x, hx, rfl⟩ := (resident?_collect h).mp hy
  rw [Heap.object?, hy, Heap.object?, hx]
  rfl

end

/-- The survivors of a collection are the nodes that the roots lead to, and each keeps its
reference, its payload and its header but for the mark, which is clear. -/
theorem collect_keeps_reachable {c c' : Collector} {p p' : Process} {trigger : Trigger}
    {pinned : Option Ref} {m : Metrics} (h : c.collect p trigger pinned = (.ok m, c', p')) :
    (∀ r, c'.isLive r ↔ c.isLive r ∧ c.heap.Reach (c.IsRoot p pinned) r) ∧
    ∀ r y, c'.heap.resident? r = some y → ∃ x, c.heap.resident? r = some x ∧
      y.object = x.object ∧ y.header.kind = x.header.kind ∧
      y.header.secondary = x.header.secondary ∧ (∀ f, y.header.flag f = x.header.flag f) ∧
      y.header.isMarked = false := by
  constructor
  · intro r
    rw [isLive_collect h]
    constructor
    · intro reach
      exact ⟨reach.isLive, reach⟩
    · rintro ⟨-, reach⟩
      exact reach
  · intro r y hy
    obtain ⟨-, x, hx, rfl⟩ := (resident?_collect h).mp hy
    have agrees := x.header.agrees_clearMark
    exact ⟨x, hx, rfl, agrees.kind, agrees.secondary, agrees.flag, x.header.isMarked_clearMark⟩

def sample : Collector :=
  let (held, heap) := Heap.empty.allocate (.ofKind .chunk) (.zeros 3)
  let (lost, heap) := heap.allocate (.ofKind .chunk) (.zeros 3)
  let (vector, heap) := heap.allocate (.ofKind .vector)
    (.vector #[.node held, .node { lost with generation := 9 }])
  let (_, keepAlive) := ({} : Registry Ref).insert vector
  { heap, keepAlive }

theorem collect_keeps_reachable_sample :
    ∃ m c' p', sample.collect {} .manual none = (.ok m, c', p') ∧
      c'.isLive ⟨0, 0⟩ ∧ ¬c'.isLive ⟨1, 0⟩ ∧ c'.isLive ⟨2, 0⟩ ∧
      sample.heap.Reach (sample.IsRoot {} none) ⟨0, 0⟩ ∧
      ¬sample.heap.Reach (sample.IsRoot {} none) ⟨1, 0⟩ := by
  obtain ⟨m, hm⟩ : ∃ m, (sample.collect {} .manual none).1 = .ok m := by
    have ok : (sample.collect {} .manual none).1.isOk = true := by decide +kernel
    cases hm : (sample.collect {} .manual none).1 with
    | ok m => exact ⟨m, rfl⟩
    | error e =>
      rw [hm] at ok
      cases ok
  have completed : sample.collect {} .manual none =
      (.ok m, (sample.collect {} .manual none).2.1, (sample.collect {} .manual none).2.2) := by
    rw [← hm]
  have live := (collect_keeps_reachable completed).1
  have held : (sample.collect {} .manual none).2.1.isLive ⟨0, 0⟩ := by decide +kernel
  have lost : ¬(sample.collect {} .manual none).2.1.isLive ⟨1, 0⟩ := by decide +kernel
  have vector : (sample.collect {} .manual none).2.1.isLive ⟨2, 0⟩ := by decide +kernel
  have before : sample.isLive ⟨1, 0⟩ := by decide +kernel
  refine ⟨m, _, _, completed, held, lost, vector, ((live _).mp held).2, ?_⟩
  intro reach
  exact lost ((live _).mpr ⟨before, reach⟩)

end Collector

end MarkSweep

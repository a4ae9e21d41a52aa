import MarkSweep.Proofs.Collector.Frame

namespace MarkSweep

namespace WeakEntry

theorem settle_of_isLive {heap : Heap} {e : WeakEntry} (live : e.valid → heap.isLive e.node) :
    e.settle heap = e := by
  obtain ⟨node, valid⟩ := e
  cases valid with
  | false => rfl
  | true => rw [settle, live rfl, Bool.and_true]

theorem lapses_iff {heap : Heap} {e : WeakEntry} :
    e.lapses heap ↔ e.valid ∧ ¬heap.isLive e.node := by
  rw [lapses, Bool.and_eq_true, Bool.not_eq_true', Bool.not_eq_true]

end WeakEntry

namespace Collector

variable {c c' : Collector} {key : Key} {p : Process} {trigger : Trigger} {pinned : Option Ref}

def KeepsWatch (key : Key) (c c' : Collector) : Prop :=
  ∀ e, c.weakRefs.get? key = some e → (e.valid → c.isLive e.node) →
    c'.weakRefs.get? key = some (e.settle c'.heap)

theorem KeepsWatch.of_spared
    (entry : ∀ e, c.weakRefs.get? key = some e → c'.weakRefs.get? key = some e)
    (live : ∀ r, c.isLive r → c'.isLive r) : c.KeepsWatch key c' := by
  intro e he sound
  rw [WeakEntry.settle_of_isLive fun valid => live e.node (sound valid)]
  exact entry e he

theorem KeepsWatch.refl (c : Collector) : c.KeepsWatch key c :=
  .of_spared (fun _ he => he) fun _ hl => hl

theorem keepsWatch_edit (c : Collector) (e : Edit) : c.KeepsWatch key (e.apply c) := by
  obtain ⟨_, _, _, eq, live⟩ := Edit.apply_eq c e
  rw [eq]
  exact .of_spared (fun _ he => he) fun r hl => (live r).trans hl

theorem keepsWatch_collect (c : Collector) (p : Process) (trigger : Trigger)
    (pinned : Option Ref) : c.KeepsWatch key (c.collect p trigger pinned).2.1 := by
  rcases collect_cases c p trigger pinned with ⟨_, eq⟩ | ⟨_, eq⟩ | ⟨_, _, eq⟩
  · rw [eq]
    exact .refl c
  · rw [eq]
    refine .of_spared (fun _ he => he) ?_
    intro r hl
    exact (Heap.isLive_congr c.heap.clearMarks_clearMarks r).trans hl
  · rw [eq]
    intro e he _
    exact (Registry.law.get?_mapValues c.weakRefs _ key).trans (congrArg (Option.map _) he)

theorem keepsWatch_allocate (hc : c.Orderly) (p : Process) (header : Header) (object : Object) :
    c.KeepsWatch key (c.allocate p header object).2.1 := by
  have placed (r : Ref) (hl : c.isLive r) : (c.place header object).isLive r :=
    (hc.heap.isLive_allocate header object r).mpr (.inr hl)
  rcases allocate_snd c p header object with eq | ⟨trigger, eq⟩
  · rw [eq]
    exact .of_spared (fun _ he => he) placed
  · rw [eq]
    intro e he sound
    exact keepsWatch_collect (c.place header object) p trigger _ e he fun valid =>
      placed e.node (sound valid)

theorem keepsWatch_intern (hc : c.Orderly) (p : Process) (text : String) :
    c.KeepsWatch key (c.intern p text).2.1 := by
  rw [intern]
  split
  · exact .refl c
  · exact keepsWatch_allocate hc p _ _

theorem keepsWatch_tryTrigger (c : Collector) (p : Process) :
    c.KeepsWatch key (c.tryTrigger p).2.1 := by
  rw [tryTrigger]
  split
  · exact .refl c
  · exact keepsWatch_collect c p .manual none

theorem weakRefs_collect {c' : Collector} {p' : Process} {m : Metrics}
    (h : c.collect p trigger pinned = (.ok m, c', p')) (key : Key) :
    c'.weakRefs.get? key = (c.weakRefs.get? key).map (WeakEntry.settle c'.heap) := by
  obtain ⟨-, rfl⟩ := collect_eq_ok h
  exact Registry.law.get?_mapValues c.weakRefs _ key

theorem weakCleared_collect {c' : Collector} {p' : Process} {m : Metrics}
    (h : c.collect p trigger pinned = (.ok m, c', p')) :
    m.weakCleared =
      {key | ∃ e, c.weakRefs.get? key = some e ∧ e.valid ∧ ¬c'.isLive e.node}.ncard := by
  have lapsed := c.weakRefs.ncard_get?
    (WeakEntry.lapses (c.sweepPhase (c.markPhase p.markers pinned) trigger p.clock).2.heap)
  simp only [WeakEntry.lapses_iff] at lapsed
  rw [metrics_collect h, (collect_eq_ok h).2]
  exact lapsed.symm

end Collector

end MarkSweep

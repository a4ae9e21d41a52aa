import MarkSweep.Proofs.Collector.Edit
import MarkSweep.Proofs.Collector.Refusal
import MarkSweep.Proofs.Registry

namespace MarkSweep

namespace Collector

structure Orderly (c : Collector) : Prop where
  heap : c.heap.Consistent
  keepAlive : c.keepAlive.Consistent
  weakRefs : c.weakRefs.Consistent
  weakMaps : c.weakMaps.Consistent
  roots : c.roots.Consistent
  interned_live : ∀ (text : String) (node : Ref), c.interned[text]? = some node → c.isLive node
  interned_inj : ∀ (text other : String) (node : Ref), c.interned[text]? = some node →
    c.interned[other]? = some node → text = other

variable {c : Collector}

theorem getElem?_sweepPhase_interned {marked : Marked} {trigger : Trigger} {now : Nat}
    {text : String} {node : Ref} :
    (c.sweepPhase marked trigger now).2.interned[text]? = some node ↔
      c.interned[text]? = some node ∧ (c.sweepPhase marked trigger now).2.isLive node := by
  simp only [sweepPhase, Std.TreeMap.getElem?_filter', Option.filter_eq_some_iff]
  rfl

theorem Edit.apply_eq (c : Collector) (e : Edit) :
    ∃ heap trail lockDepth, e.apply c = { c with heap, trail, lockDepth } ∧
      ∀ r, heap.isLive r = c.heap.isLive r := by
  have same : ∃ heap trail lockDepth, c = { c with heap, trail, lockDepth } ∧
      ∀ r, heap.isLive r = c.heap.isLive r := ⟨_, _, _, rfl, fun _ => rfl⟩
  have modified (r : Ref) (f : Header → Header) : ∃ heap trail lockDepth,
      (c.modifyHeader r f).2 = { c with heap, trail, lockDepth } ∧
        ∀ r, heap.isLive r = c.heap.isLive r := by
    rcases modifyHeader_cases c r f with e | e
    · rwa [e]
    · rw [e]
      exact ⟨_, _, _, rfl, fun s => Heap.isLive_modify c.heap r s _⟩
  cases e with
  | lock =>
    rw [apply, Collector.lock]
    split
    · exact ⟨_, _, _, rfl, fun _ => rfl⟩
    · exact same
  | unlock =>
    rw [apply, Collector.unlock]
    split
    · exact ⟨_, _, _, rfl, fun _ => rfl⟩
    · exact same
  | setSlot f value =>
    rcases setSlot_cases c f value with e | e
    · rwa [e]
    · rw [e]
      exact ⟨_, _, _, rfl, Heap.isLive_writeSlot c.heap f value⟩
  | setSlotTrailed f value =>
    rcases setSlotTrailed_cases c f value with e | ⟨prior, -, e⟩
    · rwa [e]
    · rw [e]
      exact ⟨_, _, _, rfl, Heap.isLive_writeSlot c.heap f value⟩
  | writeChunk r start patch =>
    rcases writeChunk_cases c r start patch with e | ⟨bytes, -, e⟩
    · rwa [e]
    · rw [e]
      exact ⟨_, _, _, rfl, fun s => Heap.isLive_modify c.heap r s _⟩
  | setFlag r f value => exact modified r _
  | setSecondary r sec => exact modified r _
  | checkpoint => exact ⟨_, _, _, rfl, fun _ => rfl⟩
  | record f prior => exact ⟨_, _, _, rfl, fun _ => rfl⟩
  | rollback =>
    rcases rollback_cases c with e | ⟨entries, trail, -, e⟩
    · rwa [e]
    · rw [e]
      exact ⟨_, _, _, rfl, Heap.isLive_restore c.heap entries⟩
  | rollbackTo m =>
    rcases rollbackTo_cases c m with e | ⟨entries, trail, -, e⟩
    · rwa [e]
    · rw [e]
      exact ⟨_, _, _, rfl, Heap.isLive_restore c.heap entries⟩
  | commit =>
    rcases commit_cases c with e | ⟨trail, -, e⟩
    · rwa [e]
    · rw [e]
      exact ⟨_, _, _, rfl, fun _ => rfl⟩

section

variable {header : Header} {object : Object}

theorem allocate_fst (c : Collector) (p : Process) (header : Header) (object : Object) :
    (c.allocate p header object).1 = (c.heap.allocate header object).1 := by
  cases due : (c.place header object).due p.clock with
  | none => rw [allocate_of_due_eq_none due]
  | some trigger =>
    by_cases locked : c.isLocked
    · rw [allocate_of_isLocked due locked]
    · obtain ⟨p', e, -⟩ := allocate_of_due due locked
      rw [e]

theorem allocate_snd (c : Collector) (p : Process) (header : Header) (object : Object) :
    (c.allocate p header object).2.1 = c.place header object ∨
      ∃ trigger, (c.allocate p header object).2.1 =
        ((c.place header object).collect p trigger (some (c.heap.allocate header object).1)).2.1 := by
  cases due : (c.place header object).due p.clock with
  | none =>
    rw [allocate_of_due_eq_none due]
    exact .inl rfl
  | some trigger =>
    by_cases locked : c.isLocked
    · rw [allocate_of_isLocked due locked]
      exact .inl rfl
    · obtain ⟨p', e, -⟩ := allocate_of_due due locked
      rw [e]
      exact .inr ⟨trigger, rfl⟩

theorem isLive_collect_of_reach {p : Process} {trigger : Trigger} {pinned : Option Ref} {r : Ref}
    (reach : c.heap.Reach (c.IsRoot p pinned) r) :
    (c.collect p trigger pinned).2.1.isLive r := by
  rcases collect_cases c p trigger pinned with ⟨_, e⟩ | ⟨_, e⟩ | ⟨_, _, e⟩
  · rw [e]
    exact reach.isLive
  · rw [e]
    exact (Heap.isLive_congr c.heap.clearMarks_clearMarks r).trans reach.isLive
  · rw [e]
    exact (isLive_collect e).mpr reach

theorem isLive_collect_of_isRoot {p : Process} {trigger : Trigger} {pinned : Option Ref} {r : Ref}
    (root : c.IsRoot p pinned r) (live : c.isLive r) :
    (c.collect p trigger pinned).2.1.isLive r :=
  isLive_collect_of_reach (.root root live)

theorem interned_of_interned_collect {p : Process} {trigger : Trigger} {pinned : Option Ref}
    {text : String} {node : Ref}
    (h : (c.collect p trigger pinned).2.1.interned[text]? = some node) :
    c.interned[text]? = some node := by
  rcases collect_cases c p trigger pinned with ⟨_, e⟩ | ⟨_, e⟩ | ⟨_, _, e⟩
  · rwa [e] at h
  · rwa [e] at h
  · rw [e] at h
    exact (getElem?_sweepPhase_interned.mp h).1

theorem interned_of_interned_allocate {p : Process} {text : String} {node : Ref}
    (h : (c.allocate p header object).2.1.interned[text]? = some node) :
    c.interned[text]? = some node := by
  rcases allocate_snd c p header object with e | ⟨trigger, e⟩
  · rwa [e] at h
  · rw [e] at h
    exact interned_of_interned_collect (c := c.place header object) h

end

namespace Orderly

theorem create (config : Config) (now : Nat) : (Collector.create config now).Orderly where
  heap := Heap.consistent_empty
  keepAlive := Registry.law.empty
  weakRefs := Registry.law.empty
  weakMaps := Registry.law.empty
  roots := Registry.law.empty
  interned_live text node h := by simp [Collector.create] at h
  interned_inj text other node h := by simp [Collector.create] at h

theorem empty : ({} : Collector).Orderly := create {} 0

theorem edit (hc : c.Orderly) (e : Edit) : (e.apply c).Orderly := by
  have heap := Edit.consistent_apply hc.heap e
  obtain ⟨_, _, _, eq, live⟩ := Edit.apply_eq c e
  rw [eq] at heap ⊢
  exact { hc with
    heap
    interned_live := fun text node h => (live node).trans (hc.interned_live text node h) }

theorem place (hc : c.Orderly) (header : Header) (object : Object) :
    (c.place header object).Orderly :=
  { hc with
    heap := hc.heap.allocate header object
    interned_live := fun text node h =>
      (hc.heap.isLive_allocate header object node).mpr (.inr (hc.interned_live text node h)) }

theorem collect (hc : c.Orderly) (p : Process) (trigger : Trigger) (pinned : Option Ref) :
    (c.collect p trigger pinned).2.1.Orderly := by
  have heap := consistent_collect hc.heap p trigger pinned
  rcases collect_cases c p trigger pinned with ⟨_, e⟩ | ⟨_, e⟩ | ⟨_, _, e⟩
  · rwa [e]
  · rw [e] at heap ⊢
    exact { hc with
      heap
      interned_live := fun text node h =>
        (Heap.isLive_congr c.heap.clearMarks_clearMarks node).trans (hc.interned_live text node h) }
  · rw [e] at heap ⊢
    exact { heap
            keepAlive := hc.keepAlive
            weakRefs := Registry.law.mapValues hc.weakRefs _
            weakMaps := Registry.law.mapValues hc.weakMaps _
            roots := hc.roots
            interned_live := fun text node h => (getElem?_sweepPhase_interned.mp h).2
            interned_inj := fun text other node h h' => hc.interned_inj text other node
              (getElem?_sweepPhase_interned.mp h).1 (getElem?_sweepPhase_interned.mp h').1 }

theorem allocate (hc : c.Orderly) (p : Process) (header : Header) (object : Object) :
    (c.allocate p header object).2.1.Orderly := by
  have placed := hc.place header object
  rcases allocate_snd c p header object with e | ⟨trigger, e⟩
  · rwa [e]
  · rw [e]
    exact placed.collect p trigger _

theorem not_isLive_allocate (hc : c.Orderly) (p : Process) (header : Header) (object : Object) :
    ¬c.isLive (c.allocate p header object).1 := by
  rw [allocate_fst]
  exact hc.heap.not_isLive_allocate header object

theorem isLive_allocate (hc : c.Orderly) (p : Process) (header : Header) (object : Object) :
    (c.allocate p header object).2.1.isLive (c.allocate p header object).1 := by
  have live : (c.place header object).isLive (c.heap.allocate header object).1 :=
    (hc.heap.isLive_allocate header object _).mpr (.inl rfl)
  rw [allocate_fst]
  rcases allocate_snd c p header object with e | ⟨trigger, e⟩
  · rwa [e]
  · rw [e]
    exact isLive_collect_of_isRoot (.inr (.inr (.inr rfl))) live

theorem insertInterned (hc : c.Orderly) {text : String} {node : Ref} (live : c.isLive node)
    (unused : ∀ other : String, c.interned[other]? ≠ some node) :
    ({ c with interned := c.interned.insert text node } : Collector).Orderly := by
  have entry {other : String} {n : Ref} (h : (c.interned.insert text node)[other]? = some n) :
      text = other ∧ node = n ∨ c.interned[other]? = some n := by
    rw [Std.TreeMap.getElem?_insert] at h
    split at h
    case isTrue e =>
      cases h
      exact .inl ⟨Std.compare_eq_iff_eq.mp e, rfl⟩
    case isFalse => exact .inr h
  refine { hc with interned_live := ?_, interned_inj := ?_ }
  · intro other n h
    rcases entry h with ⟨rfl, rfl⟩ | old
    · exact live
    · exact hc.interned_live other n old
  · intro other other' n h h'
    rcases entry h with ⟨rfl, rfl⟩ | old <;> rcases entry h' with ⟨rfl, e⟩ | old'
    · rfl
    · exact absurd old' (unused other')
    · exact absurd (e ▸ old) (unused other)
    · exact hc.interned_inj other other' n old old'

theorem intern (hc : c.Orderly) (p : Process) (text : String) :
    (c.intern p text).2.1.Orderly := by
  rw [Collector.intern]
  split
  case h_1 => exact hc
  case h_2 =>
    refine (hc.allocate p _ _).insertInterned (hc.isLive_allocate p _ _) ?_
    intro other h
    exact hc.not_isLive_allocate p _ _ (hc.interned_live _ _ (interned_of_interned_allocate h))

theorem tryTrigger (hc : c.Orderly) (p : Process) : (c.tryTrigger p).2.1.Orderly := by
  rw [Collector.tryTrigger]
  split
  · exact hc
  · exact hc.collect p .manual none

end Orderly

end Collector

end MarkSweep

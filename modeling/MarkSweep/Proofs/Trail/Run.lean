import MarkSweep.Proofs.Trail.Stretch
import Mathlib.Data.List.Induction

namespace MarkSweep

namespace Trail

inductive Op where
  | checkpoint
  | record (field : Field) (prior : Slot)
  | rollback
  | rollbackTo (m : TrailMark)
  | commit
deriving DecidableEq, Repr

def Op.apply (t : Trail) : Op → Trail
  | checkpoint => t.checkpoint.2
  | record field prior => t.record field prior
  | rollback => t.retreat.2
  | rollbackTo m => (t.retreatTo m).2
  | commit => t.merge.2

def Op.IsRollback : Op → Prop
  | rollback | rollbackTo _ => True
  | _ => False

def run (ops : List Op) : Trail := ops.foldl Op.apply {}

def opened (before since : List Op) : Trail := run (before ++ .checkpoint :: since)

def StaysOpen (before since : List Op) : Prop :=
  ∀ part, part <+: since → (run before).depth < (opened before part).depth

def rollbackDown (t : Trail) (depth : Nat) : Except Fault (List Entry × Trail) :=
  if depth ≤ t.depth then
    match _rolled : t.rollback with
    | .error e => .error e
    | .ok (entries, rest) =>
      match rest.rollbackDown depth with
      | .error e => .error e
      | .ok (outer, last) => .ok (entries ++ outer, last)
  else .ok ([], t)
termination_by t.depth
decreasing_by
  have step := depth_rollback _rolled
  omega

theorem run_concat (ops : List Op) (o : Op) : run (ops ++ [o]) = o.apply (run ops) := by
  rw [run, List.foldl_append]
  rfl

theorem opened_nil (before : List Op) : opened before [] = (run before).checkpoint.2 :=
  run_concat before .checkpoint

theorem opened_concat (before since : List Op) (o : Op) :
    opened before (since ++ [o]) = o.apply (opened before since) := by
  rw [opened, ← List.cons_append, ← List.append_assoc, run_concat, opened]

theorem staysOpen_concat {before since : List Op} {o : Op} :
    StaysOpen before (since ++ [o]) ↔
      StaysOpen before since ∧ (run before).depth < (o.apply (opened before since)).depth := by
  rw [← opened_concat]
  constructor
  · intro h
    exact ⟨fun part hp => h part (hp.trans (List.prefix_append since [o])), h _ List.prefix_rfl⟩
  · rintro ⟨earlier, last⟩ part hp
    rcases List.prefix_concat_iff.mp hp with rfl | hp
    · exact last
    · exact earlier part hp

section

variable (t : Trail)

theorem depth_checkpoint : t.checkpoint.2.depth = t.depth + 1 := rfl

theorem depth_record (field : Field) (prior : Slot) : (t.record field prior).depth = t.depth := by
  rw [record]
  split <;> rfl

theorem record_of_depth_eq_zero (bottom : t.depth = 0) (field : Field) (prior : Slot) :
    t.record field prior = t := by
  have none : t.checkpoints = [] := List.eq_nil_of_length_eq_zero bottom
  rw [record, none]
  rfl

theorem rollback_of_depth_eq_zero (bottom : t.depth = 0) : t.rollback = .error .noCheckpoint := by
  have none : t.checkpoints = [] := List.eq_nil_of_length_eq_zero bottom
  rw [rollback_eq, none]

theorem commit_of_depth_eq_zero (bottom : t.depth = 0) : t.commit = .error .noCheckpoint := by
  have none : t.checkpoints = [] := List.eq_nil_of_length_eq_zero bottom
  rw [commit_eq, none]

variable {t}

theorem exists_rollback (deep : 0 < t.depth) : ∃ entries t', t.rollback = .ok (entries, t') := by
  cases hc : t.checkpoints with
  | nil =>
    rw [depth, hc] at deep
    cases deep
  | cons c rest =>
    rw [rollback_eq, hc]
    exact ⟨_, _, rfl⟩

theorem exists_commit (deep : 0 < t.depth) : ∃ t', t.commit = .ok t' := by
  rw [commit_eq]
  split
  case h_1 hc =>
    rw [depth, hc] at deep
    cases deep
  case h_2 => exact ⟨_, rfl⟩
  case h_3 => exact ⟨_, rfl⟩

theorem isOpen_iff {m : TrailMark} :
    t.isOpen m ↔ ∃ c, t.checkpointAt? m.depth = some c ∧ c.serial = m.serial := by
  simp only [isOpen, Option.any_eq_true, beq_iff_eq]

theorem mem_of_checkpointAt? {depth : Nat} {c : Checkpoint}
    (h : t.checkpointAt? depth = some c) :
    c ∈ t.checkpoints ∧ 0 < depth ∧ depth ≤ t.depth := by
  rw [checkpointAt?] at h
  split at h
  case isTrue => cases h
  case isFalse positive =>
    have bound := (List.getElem?_eq_some_iff.mp h).1
    rw [List.length_reverse, ← Trail.depth] at bound
    refine ⟨List.mem_reverse.mp (List.mem_of_getElem? h), ?_, ?_⟩
    · omega
    · omega

theorem le_depth_of_isOpen {m : TrailMark} (h : t.isOpen m) : 0 < m.depth ∧ m.depth ≤ t.depth := by
  obtain ⟨c, hc, -⟩ := isOpen_iff.mp h
  exact (mem_of_checkpointAt? hc).2

theorem rollbackTo_of_isOpen {m : TrailMark} (h : t.isOpen m) :
    t.rollbackTo m = .ok (t.unwind (t.depth + 1 - m.depth)) := by
  rw [rollbackTo_eq, if_pos h]

theorem rollbackTo_of_not_isOpen {m : TrailMark} (h : ¬t.isOpen m) :
    t.rollbackTo m = .error .noCheckpoint := by
  rw [rollbackTo_eq, if_neg h]

theorem rollbackDown_eq (t : Trail) {depth : Nat} (positive : 0 < depth) :
    t.rollbackDown depth = .ok (t.unwind (t.depth + 1 - depth)) := by
  fun_induction rollbackDown t depth with
  | case1 t deep e rolled =>
    obtain ⟨_, _, rolled'⟩ := exists_rollback (Nat.lt_of_lt_of_le positive deep)
    rw [rolled] at rolled'
    cases rolled'
  | case2 t deep entries rest rolled e failed ih =>
    rw [ih] at failed
    cases failed
  | case3 t deep entries rest rolled outer last done ih =>
    have step := depth_rollback rolled
    have rounds : t.depth + 1 - depth = rest.depth + 1 - depth + 1 := by omega
    rw [ih] at done
    rw [rounds, unwind, rolled]
    simp only [Except.ok.inj done]
  | case4 t shallow =>
    have rounds : t.depth + 1 - depth = 0 := by omega
    rw [rounds, unwind]

theorem exists_unwind {o : Op} (h : o.IsRollback) (t : Trail) :
    ∃ n ≤ t.depth, o.apply t = (t.unwind n).2 := by
  cases o with
  | rollback =>
    rw [Op.apply]
    rcases Nat.eq_zero_or_pos t.depth with bottom | deep
    · rw [retreat_of_error (rollback_of_depth_eq_zero t bottom)]
      exact ⟨0, Nat.zero_le _, rfl⟩
    · obtain ⟨entries, t', rolled⟩ := exists_rollback deep
      rw [paired_eq_ok_iff.mp rolled]
      refine ⟨1, deep, ?_⟩
      rw [unwind_one rolled]
  | rollbackTo m =>
    rw [Op.apply]
    by_cases isOpen : t.isOpen m
    · have bounds := le_depth_of_isOpen isOpen
      rw [paired_eq_ok_iff.mp (rollbackTo_of_isOpen isOpen)]
      exact ⟨t.depth + 1 - m.depth, by omega, rfl⟩
    · rw [retreatTo_of_error (rollbackTo_of_not_isOpen isOpen)]
      exact ⟨0, Nat.zero_le _, rfl⟩
  | checkpoint | record | commit => exact h.elim

theorem outer_unwind (t : Trail) (n : Nat) :
    (t.unwind n).2.checkpoints <:+ t.checkpoints ∧ (t.unwind n).2.nextSerial = t.nextSerial := by
  induction n generalizing t with
  | zero => exact ⟨List.suffix_rfl, rfl⟩
  | succ n ih =>
    rw [unwind, rollback_eq]
    cases hc : t.checkpoints with
    | nil =>
      refine ⟨?_, rfl⟩
      simp only [hc, List.suffix_rfl]
    | cons c rest =>
      obtain ⟨outer, serial⟩ := ih { t with
        entries := t.entries.drop (t.length - c.start)
        checkpoints := rest }
      exact ⟨outer.trans (List.suffix_cons c rest), serial⟩

theorem outer_apply {o : Op} (closing : o ≠ .checkpoint) (t : Trail) :
    (o.apply t).checkpoints <:+ t.checkpoints ∧ (o.apply t).nextSerial = t.nextSerial := by
  have rolledBack (rollback : o.IsRollback) :
      (o.apply t).checkpoints <:+ t.checkpoints ∧ (o.apply t).nextSerial = t.nextSerial := by
    obtain ⟨n, -, e⟩ := exists_unwind rollback t
    rw [e]
    exact outer_unwind t n
  cases o with
  | checkpoint => exact absurd rfl closing
  | record field prior =>
    rw [Op.apply, record]
    split
    · exact ⟨List.suffix_rfl, rfl⟩
    · exact ⟨List.suffix_rfl, rfl⟩
  | rollback => exact rolledBack trivial
  | rollbackTo m => exact rolledBack trivial
  | commit =>
    rw [Op.apply, merge]
    split
    case h_1 => exact ⟨List.suffix_rfl, rfl⟩
    case h_2 => exact ⟨List.nil_suffix, rfl⟩
    case h_3 hc =>
      rw [hc]
      exact ⟨List.suffix_cons _ _, rfl⟩

end

end Trail

end MarkSweep

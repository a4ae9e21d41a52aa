import MarkSweep.Proofs.Trail.History
import Mathlib.Data.List.Basic

/-!
What a rollback hands out, told from the history of the trail. The positions that are held lie in
layers, one for each open checkpoint, innermost first. A commit joins two layers, and a rollback
takes off the topmost.
-/

namespace MarkSweep

namespace Trail

variable {ops before since : List Op} {o : Op} {i : Nat}

/-- These are the positions of the entries, stretch by stretch. -/
structure Layered (ops : List Op) (layers : List (List Nat)) : Prop where
  above : ∃ ss, Above {} (run ops) ss ∧
    ss.map Stretch.entries = layers.map (·.filterMap (recorded? ops))
  held : ∀ depth i, 0 < depth →
    (i ∈ (layers.take ((run ops).depth + 1 - depth)).flatten ↔ IsHeld ops depth i)
  descending : layers.flatten.Pairwise (· > ·)

namespace Layered

variable {layers : List (List Nat)}

theorem held_of_le (inside : ∀ depth i, 0 < depth → depth ≤ (run ops).depth →
      (i ∈ (layers.take ((run ops).depth + 1 - depth)).flatten ↔ IsHeld ops depth i)) :
    ∀ depth i, 0 < depth →
      (i ∈ (layers.take ((run ops).depth + 1 - depth)).flatten ↔ IsHeld ops depth i) := by
  intro depth i positive
  rcases Nat.lt_or_ge (run ops).depth depth with above | bound
  · have none : (run ops).depth + 1 - depth = 0 := by omega
    rw [none, List.take_zero]
    constructor
    · rintro ⟨⟩
    · intro held
      exact absurd held.le_depth (Nat.not_le.mpr above)
  · exact inside depth i positive bound

theorem length_eq (h : Layered ops layers) : layers.length = (run ops).depth := by
  obtain ⟨ss, above, entries⟩ := h.above
  have lengths := congrArg List.length entries
  rw [List.length_map, List.length_map] at lengths
  rw [← lengths, above.depth_eq]
  rfl

theorem mem_flatten (h : Layered ops layers) : i ∈ layers.flatten ↔ IsHeld ops 1 i := by
  have whole := h.held 1 i Nat.one_pos
  rwa [Nat.add_sub_cancel, ← h.length_eq, List.take_length] at whole

theorem filterMap_concat (h : Layered ops layers) {layer : List Nat}
    (old : ∀ i ∈ layer, i ∈ layers.flatten) :
    layer.filterMap (recorded? (ops ++ [o])) = layer.filterMap (recorded? ops) := by
  apply List.filterMap_congr
  intro i hi
  exact recorded?_concat (lt_of_recorded (h.mem_flatten.mp (old i hi)).recorded)

theorem map_concat (h : Layered ops layers) {kept : List (List Nat)}
    (old : ∀ i ∈ kept.flatten, i ∈ layers.flatten) :
    kept.map (·.filterMap (recorded? (ops ++ [o]))) = kept.map (·.filterMap (recorded? ops)) := by
  apply List.map_congr_left
  intro layer hl
  apply h.filterMap_concat
  intro i hi
  exact old i (List.mem_flatten.mpr ⟨layer, hl, hi⟩)

theorem nil : Layered [] [] where
  above := ⟨[], ⟨rfl, rfl⟩, rfl⟩
  held depth i positive := by
    constructor
    · intro hi
      rw [List.take_nil] at hi
      cases hi
    · intro held
      exact absurd (lt_of_recorded held.recorded) (Nat.not_lt_zero i)
  descending := List.Pairwise.nil

theorem idle (h : Layered ops layers) (same : o.apply (run ops) = run ops)
    (nothing : o.records? (run ops) = none) (spared : ¬o.IsRollback) :
    Layered (ops ++ [o]) layers := by
  refine ⟨?_, held_of_le ?_, h.descending⟩
  · rw [run_concat, same, h.map_concat fun _ hi => hi]
    exact h.above
  · intro depth i positive bound
    rw [run_concat] at bound ⊢
    rw [isHeld_concat_of_silent nothing spared bound, same]
    exact h.held depth i positive

theorem checkpoint (h : Layered ops layers) :
    Layered (ops ++ [.checkpoint]) ([] :: layers) := by
  refine ⟨?_, held_of_le ?_, h.descending⟩
  · obtain ⟨ss, above, entries⟩ := h.above
    rw [run_concat]
    refine ⟨_, above.checkpoint, ?_⟩
    rw [List.map_cons, List.map_cons, h.map_concat fun _ hi => hi, entries]
    rfl
  · intro depth i positive bound
    rw [run_concat] at bound ⊢
    rw [isHeld_concat_of_silent rfl id bound]
    rw [Op.apply, depth_checkpoint] at bound ⊢
    have rest : (run ops).depth + 1 + 1 - depth = (run ops).depth + 1 - depth + 1 := by omega
    rw [rest, List.take_succ_cons, List.flatten_cons, List.nil_append]
    exact h.held depth i positive

theorem record {s : List Nat} (h : Layered ops (s :: layers)) (field : Field) (prior : Slot) :
    Layered (ops ++ [.record field prior]) ((ops.length :: s) :: layers) := by
  have deep : (run ops).depth ≠ 0 := by
    rw [← h.length_eq]
    exact Nat.succ_ne_zero _
  have recorded : (Op.record field prior).records? (run ops) = some ⟨field, prior⟩ := if_neg deep
  refine ⟨?_, held_of_le ?_, ?_⟩
  · obtain ⟨ss, above, entries⟩ := h.above
    cases ss with
    | nil => cases entries
    | cons t ss =>
      rw [List.map_cons, List.map_cons] at entries
      obtain ⟨top, rest⟩ := List.cons.inj entries
      rw [run_concat]
      refine ⟨_, above.record field prior, ?_⟩
      rw [List.map_cons, List.map_cons, List.filterMap_cons, recorded?_concat_self, recorded,
        h.filterMap_concat fun _ hi => List.mem_append_left _ hi,
        h.map_concat fun _ hi => List.mem_append_right _ hi, ← rest, ← top]
  · intro depth i positive bound
    rw [run_concat, Op.apply, depth_record] at bound ⊢
    have top : (run ops).depth + 1 - depth = (run ops).depth - depth + 1 := by omega
    have held := h.held depth i positive
    rw [top, List.take_succ_cons, List.flatten_cons] at held ⊢
    rw [isHeld_concat, recorded, Op.apply, depth_record, List.cons_append, List.mem_cons, held]
    simp only [bound, Op.IsRollback, Option.isSome_some, false_implies, and_true, true_and]
  · rw [List.flatten_cons, List.cons_append, List.pairwise_cons]
    refine ⟨?_, h.descending⟩
    intro i hi
    exact lt_of_recorded (h.mem_flatten.mp hi).recorded

theorem commit {s s' : List Nat} (h : Layered ops (s :: s' :: layers)) :
    Layered (ops ++ [.commit]) ((s ++ s') :: layers) := by
  obtain ⟨ss, above, entries⟩ := h.above
  match ss with
  | [] => cases entries
  | [_] => simp at entries
  | t :: t' :: ss =>
    obtain ⟨joined, committed, above⟩ := above.commit
    have step := depth_commit committed
    have applied : Op.commit.apply (run ops) = joined := by
      rw [Op.apply, merge_of_ok committed]
    refine ⟨?_, held_of_le ?_, ?_⟩
    · rw [run_concat, applied]
      refine ⟨_, above, ?_⟩
      rw [List.map_cons, List.map_cons, List.map_cons, List.map_cons] at entries
      obtain ⟨top, below⟩ := List.cons.inj entries
      obtain ⟨next, rest⟩ := List.cons.inj below
      have here : s ++ s' ⊆ (s :: s' :: layers).flatten := by
        rw [List.flatten_cons, List.flatten_cons, ← List.append_assoc]
        exact List.subset_append_left _ _
      have there : layers.flatten ⊆ (s :: s' :: layers).flatten := by
        rw [List.flatten_cons, List.flatten_cons, ← List.append_assoc]
        exact List.subset_append_right _ _
      rw [List.map_cons, List.map_cons, h.filterMap_concat here, h.map_concat there, ← rest,
        List.filterMap_append, ← top, ← next]
    · intro depth i positive bound
      rw [run_concat] at bound ⊢
      rw [isHeld_concat_of_silent rfl id bound]
      rw [applied] at bound ⊢
      have top : joined.depth + 1 - depth = joined.depth - depth + 1 := by omega
      have both : (run ops).depth + 1 - depth = joined.depth - depth + 1 + 1 := by omega
      have held := h.held depth i positive
      rw [both, List.take_succ_cons, List.take_succ_cons, List.flatten_cons, List.flatten_cons,
        ← List.append_assoc] at held
      rwa [top, List.take_succ_cons, List.flatten_cons]
    · rw [List.flatten_cons, List.append_assoc]
      exact h.descending

theorem commit_outermost {s : List Nat} (h : Layered ops [s]) :
    Layered (ops ++ [.commit]) [] := by
  have outermost := h.length_eq
  have committed : Op.commit.apply (run ops) =
      { run ops with entries := [], checkpoints := [] } := by
    rw [Op.apply, merge]
    obtain ⟨c, hc⟩ := List.length_eq_one_iff.mp outermost.symm
    rw [hc]
  refine ⟨?_, held_of_le ?_, List.Pairwise.nil⟩
  · rw [run_concat, committed]
    exact ⟨[], ⟨rfl, rfl⟩, rfl⟩
  · intro depth i positive bound
    rw [run_concat, committed] at bound
    exact absurd bound (Nat.not_le.mpr positive)

theorem unwind (h : Layered ops layers) (rollback : o.IsRollback) {n : Nat}
    (hn : n ≤ (run ops).depth) (unwound : o.apply (run ops) = ((run ops).unwind n).2) :
    Layered (ops ++ [o]) (layers.drop n) := by
  have parts : (layers.take n).flatten ++ (layers.drop n).flatten = layers.flatten := by
    rw [← List.flatten_append, List.take_append_drop]
  refine ⟨?_, held_of_le ?_, ?_⟩
  · obtain ⟨ss, above, entries⟩ := h.above
    have inside : n ≤ ss.length := by
      rw [above.depth_eq] at hn
      exact hn
    have below : (layers.drop n).flatten ⊆ layers.flatten := by
      rw [← parts]
      exact List.subset_append_right _ _
    rw [run_concat, unwound, h.map_concat below]
    refine ⟨ss.drop n, (above.unwind inside).2, ?_⟩
    rw [List.map_drop, List.map_drop, entries]
  · intro depth i positive bound
    rw [run_concat, unwound, depth_unwind] at bound ⊢
    -- What the rollback takes off is what was held one level above the depth that is left.
    have closed := h.held ((run ops).depth - n + 1) i (Nat.succ_pos _)
    have held := h.held depth i positive
    have count : (run ops).depth + 1 - ((run ops).depth - n + 1) = n := by omega
    have split : (run ops).depth + 1 - depth = n + ((run ops).depth - n + 1 - depth) := by omega
    rw [count] at closed
    rw [split, List.take_add, List.flatten_append, List.mem_append] at held
    rw [isHeld_concat_of_isRollback rollback, unwound, depth_unwind, ← closed, ← held]
    constructor
    · intro below
      refine ⟨bound, .inr below, ?_⟩
      intro above
      have descending := h.descending
      rw [← parts] at descending
      obtain ⟨layer, hl, hi⟩ := List.mem_flatten.mp below
      have lies := List.mem_flatten.mpr ⟨layer, List.mem_of_mem_take hl, hi⟩
      exact Nat.lt_irrefl i ((List.pairwise_append.mp descending).2.2 i above i lies)
    · rintro ⟨-, above | below, spared⟩
      · exact absurd above spared
      · exact below
  · have descending := h.descending
    rw [← parts] at descending
    exact (List.pairwise_append.mp descending).2.1

end Layered

theorem exists_layered (ops : List Op) : ∃ layers, Layered ops layers := by
  induction ops using List.reverseRecOn with
  | nil => exact ⟨[], .nil⟩
  | append_singleton ops o ih =>
    obtain ⟨layers, h⟩ := ih
    have rolledBack (rollback : o.IsRollback) : ∃ layers, Layered (ops ++ [o]) layers := by
      obtain ⟨n, hn, unwound⟩ := exists_unwind rollback (run ops)
      exact ⟨_, h.unwind rollback hn unwound⟩
    have bottom (empty : layers = []) : (run ops).depth = 0 := by
      rw [← h.length_eq, empty, List.length_nil]
    cases o with
    | checkpoint => exact ⟨_, h.checkpoint⟩
    | record field prior =>
      cases layers with
      | nil =>
        exact ⟨_, h.idle (record_of_depth_eq_zero _ (bottom rfl) _ _) (if_pos (bottom rfl)) id⟩
      | cons s layers => exact ⟨_, h.record field prior⟩
    | rollback => exact rolledBack trivial
    | rollbackTo m => exact rolledBack trivial
    | commit =>
      match layers with
      | [] =>
        refine ⟨_, h.idle ?_ rfl id⟩
        rw [Op.apply, merge_of_error (commit_of_depth_eq_zero _ (bottom rfl))]
      | [_] => exact ⟨_, h.commit_outermost⟩
      | _ :: _ :: _ => exact ⟨_, h.commit⟩

theorem starts_under (ss : List Stretch) :
    ((under {} ss).checkpoints.Pairwise fun inner outer => outer.start ≤ inner.start) ∧
      ∀ c ∈ (under {} ss).checkpoints, c.start ≤ (under {} ss).length := by
  induction ss with
  | nil =>
    refine ⟨List.Pairwise.nil, ?_⟩
    rintro c ⟨⟩
  | cons s ss ih =>
    obtain ⟨ordered, bounded⟩ := ih
    have grows : (under {} ss).length ≤ (under {} (s :: ss)).length := by
      rw [under_cons, push, length, length, List.length_append]
      omega
    rw [under_cons, push]
    refine ⟨List.Pairwise.cons bounded ordered, ?_⟩
    intro c hc
    rcases List.mem_cons.mp hc with rfl | hc
    · exact grows
    · exact Nat.le_trans (bounded c hc) grows

theorem rollback_opened (stays : StaysOpen before since)
    (innermost : (opened before since).depth = (run before).depth + 1) :
    ∃ (positions : List Nat) (t' : Trail), positions.Pairwise (· > ·) ∧
      (∀ i, i ∈ positions ↔ before.length < i ∧
        (recorded? (before ++ .checkpoint :: since) i).isSome ∧
        ¬IsUndone (before ++ .checkpoint :: since) i) ∧
      (opened before since).rollback =
        .ok (positions.filterMap (recorded? (before ++ .checkpoint :: since)), t') := by
  obtain ⟨layers, h⟩ := exists_layered (before ++ .checkpoint :: since)
  obtain ⟨ss, above, entries⟩ := h.above
  have count := h.length_eq
  rw [← opened, innermost] at count
  cases layers with
  | nil => cases count
  | cons top layers =>
    cases ss with
    | nil => cases entries
    | cons s ss =>
      obtain ⟨t', rolled, -⟩ := above.rollback
      rw [List.map_cons, List.map_cons] at entries
      rw [← opened, (List.cons.inj entries).1] at rolled
      have descending := h.descending
      rw [List.flatten_cons, List.pairwise_append] at descending
      refine ⟨top, t', descending.1, ?_, rolled⟩
      intro i
      have held := h.held ((run before).depth + 1) i (Nat.succ_pos _)
      rw [← opened, innermost, Nat.add_sub_cancel_left, List.take_succ_cons, List.take_zero,
        List.flatten_singleton, isHeld_opened stays] at held
      exact held

theorem commit_of_one_lt_depth {t : Trail} (nested : 1 < t.depth) :
    ∃ t', t.commit = .ok t' ∧ t'.entries = t.entries := by
  obtain ⟨t', committed⟩ := exists_commit (Nat.lt_trans Nat.one_pos nested)
  refine ⟨t', committed, ?_⟩
  rw [commit_eq] at committed
  split at committed
  case h_1 => cases committed
  case h_2 hc =>
    rw [depth, hc] at nested
    exact absurd nested (Nat.lt_irrefl 1)
  case h_3 =>
    cases committed
    rfl

theorem commit_of_depth_eq_one {t : Trail} (outermost : t.depth = 1) :
    ∃ t', t.commit = .ok t' ∧ t'.entries = [] := by
  obtain ⟨c, hc⟩ := List.length_eq_one_iff.mp outermost
  rw [commit_eq, hc]
  exact ⟨_, rfl, rfl⟩

/-- The starts of the checkpoints are in order and within the entries. A rollback hands out what was
recorded since the innermost checkpoint was opened and has not been undone, latest first. Rolling
back to a mark is a loop of single rollbacks. A commit keeps every entry until it closes the
outermost checkpoint, which discards them all. -/
theorem segments_unwind_in_reverse (ops : List Op) :
    ((run ops).checkpoints.Pairwise fun inner outer => outer.start ≤ inner.start) ∧
    (∀ c ∈ (run ops).checkpoints, c.start ≤ (run ops).length) ∧
    ((run ops).depth = 0 → (run ops).entries = []) ∧
    (0 < (run ops).depth → ∃ before since positions t',
      ops = before ++ .checkpoint :: since ∧ StaysOpen before since ∧
      (run ops).depth = (run before).depth + 1 ∧
      (positions : List Nat).Pairwise (· > ·) ∧
      (∀ i, i ∈ positions ↔
        before.length < i ∧ (recorded? ops i).isSome ∧ ¬IsUndone ops i) ∧
      (run ops).rollback = .ok (positions.filterMap (recorded? ops), t')) ∧
    (∀ m, (run ops).isOpen m → ∃ answer,
      (run ops).rollbackTo m = .ok answer ∧ (run ops).rollbackDown m.depth = .ok answer ∧
      answer.2.depth + 1 = m.depth) ∧
    (1 < (run ops).depth → ∃ t', (run ops).commit = .ok t' ∧ t'.entries = (run ops).entries) ∧
    ((run ops).depth = 1 → ∃ t', (run ops).commit = .ok t' ∧ t'.entries = []) := by
  obtain ⟨layers, h⟩ := exists_layered ops
  obtain ⟨ss, above, -⟩ := h.above
  obtain ⟨ordered, bounded⟩ := starts_under ss
  rw [← above.checkpoints] at ordered bounded
  rw [← above.length_eq] at bounded
  refine ⟨ordered, bounded, ?_, ?_, ?_, commit_of_one_lt_depth, commit_of_depth_eq_one⟩
  · intro bottom
    rw [above.depth_eq] at bottom
    obtain rfl : ss = [] := List.eq_nil_of_length_eq_zero (Nat.eq_zero_of_add_eq_zero_right bottom)
    exact above.entries
  · intro deep
    obtain ⟨before, since, rfl, stays, level⟩ := exists_opened ops (Nat.sub_lt deep Nat.one_pos)
    have innermost : (opened before since).depth = (run before).depth + 1 := by
      rw [opened]
      omega
    obtain ⟨positions, t', latest, mem, rolled⟩ := rollback_opened stays innermost
    exact ⟨before, since, positions, t', rfl, stays, innermost, latest, mem, rolled⟩
  · intro m isOpen
    have bounds := le_depth_of_isOpen isOpen
    refine ⟨_, rollbackTo_of_isOpen isOpen, rollbackDown_eq _ bounds.1, ?_⟩
    rw [depth_unwind]
    omega

end Trail

end MarkSweep

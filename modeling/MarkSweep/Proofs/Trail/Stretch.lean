import MarkSweep.Trail

/-!
A trail as a stack of stretches. What lies above an older trail is a list of stretches, innermost
first, each under a checkpoint of its own, and every operation works on the front of that list as
long as it leaves the last of them open.
-/

namespace MarkSweep

structure Stretch where
  serial : Nat
  entries : List Entry

namespace Trail

def push (t : Trail) (s : Stretch) : Trail :=
  { t with
    entries := s.entries ++ t.entries
    checkpoints := ⟨t.length, s.serial⟩ :: t.checkpoints }

def under (base : Trail) (ss : List Stretch) : Trail := ss.foldr (fun s t => t.push s) base

structure Above (base t : Trail) (ss : List Stretch) : Prop where
  entries : t.entries = (base.under ss).entries
  checkpoints : t.checkpoints = (base.under ss).checkpoints

variable {base t : Trail}

theorem paired_eq_ok_iff {α : Type} {x : Except Fault α × Trail} {a : α} {t : Trail} :
    paired x = .ok (a, t) ↔ x = (.ok a, t) := by
  obtain ⟨e | b, t'⟩ := x
  · simp [paired]
  · simp [paired]

theorem rollback_eq (t : Trail) : t.rollback =
    match t.checkpoints with
    | [] => .error .noCheckpoint
    | c :: rest => .ok (t.entries.take (t.length - c.start),
      { t with entries := t.entries.drop (t.length - c.start), checkpoints := rest }) := by
  rw [rollback, retreat]
  cases t.checkpoints with
  | nil => rfl
  | cons c rest => rfl

theorem rollbackTo_eq (t : Trail) (m : TrailMark) : t.rollbackTo m =
    if t.isOpen m then .ok (t.unwind (t.depth + 1 - m.depth)) else .error .noCheckpoint := by
  rw [rollbackTo, retreatTo]
  split
  · rfl
  · rfl

theorem commit_eq (t : Trail) : t.commit =
    match t.checkpoints with
    | [] => .error .noCheckpoint
    | [_] => .ok { t with entries := [], checkpoints := [] }
    | _ :: rest => .ok { t with checkpoints := rest } := by
  rw [commit, merge]
  rcases t.checkpoints with - | ⟨c, - | ⟨d, rest⟩⟩
  · rfl
  · rfl
  · rfl

theorem retreat_of_error {e : Fault} (h : t.rollback = .error e) : t.retreat = (.error e, t) := by
  rw [rollback, retreat] at h
  rw [retreat]
  split at h
  · cases h
    rfl
  · cases h

theorem retreatTo_of_error {m : TrailMark} {e : Fault} (h : t.rollbackTo m = .error e) :
    t.retreatTo m = (.error e, t) := by
  by_cases isOpen : t.isOpen m
  · rw [rollbackTo_eq, if_pos isOpen] at h
    cases h
  · rw [rollbackTo_eq, if_neg isOpen] at h
    cases h
    exact if_neg isOpen

theorem merge_of_error {e : Fault} (h : t.commit = .error e) : t.merge = (.error e, t) := by
  rw [commit_eq] at h
  rw [merge]
  rcases hc : t.checkpoints with - | ⟨c, - | ⟨d, rest⟩⟩
  · rw [hc] at h
    cases h
    rfl
  · rw [hc] at h
    cases h
  · rw [hc] at h
    cases h

theorem merge_of_ok {t' : Trail} (h : t.commit = .ok t') : t.merge = (.ok (), t') := by
  rw [commit] at h
  rcases hm : t.merge with ⟨e | u, t''⟩
  · rw [hm] at h
    cases h
  · rw [hm] at h
    cases h
    rfl

theorem under_cons (base : Trail) (s : Stretch) (ss : List Stretch) :
    base.under (s :: ss) = (base.under ss).push s := rfl

theorem entries_under (base : Trail) (ss : List Stretch) :
    (base.under ss).entries = ss.flatMap Stretch.entries ++ base.entries := by
  induction ss with
  | nil => rfl
  | cons s ss ih => rw [under_cons, push, ih, List.flatMap_cons, List.append_assoc]

theorem depth_under (base : Trail) (ss : List Stretch) :
    (base.under ss).depth = ss.length + base.depth := by
  induction ss with
  | nil => rw [List.length_nil, Nat.zero_add, under, List.foldr_nil]
  | cons s ss ih =>
    rw [under_cons, depth, push, List.length_cons, ← depth, ih, List.length_cons]
    omega

namespace Above

variable {s s' : Stretch} {ss : List Stretch}

theorem depth_eq (h : base.Above t ss) : t.depth = ss.length + base.depth := by
  rw [depth, h.checkpoints, ← depth, depth_under]

theorem length_eq (h : base.Above t ss) : t.length = (base.under ss).length := by
  rw [length, h.entries, length]

theorem entries_eq (h : base.Above t ss) :
    t.entries = ss.flatMap Stretch.entries ++ base.entries := by
  rw [h.entries, entries_under]

theorem checkpoint (h : base.Above t ss) :
    base.Above t.checkpoint.2 (⟨t.nextSerial, []⟩ :: ss) where
  entries := h.entries
  checkpoints := by
    rw [under_cons, push, Trail.checkpoint, h.checkpoints, h.length_eq]

theorem record (h : base.Above t (s :: ss)) (field : Field) (prior : Slot) :
    base.Above (t.record field prior)
      ({ s with entries := ⟨field, prior⟩ :: s.entries } :: ss) := by
  have covered : t.checkpoints.isEmpty = false := by
    rw [h.checkpoints]
    rfl
  rw [Trail.record, covered]
  refine ⟨?_, h.checkpoints⟩
  exact congrArg (⟨field, prior⟩ :: ·) h.entries

theorem commit (h : base.Above t (s :: s' :: ss)) :
    ∃ t', t.commit = .ok t' ∧
      base.Above t' ({ s' with entries := s.entries ++ s'.entries } :: ss) := by
  have checkpoints := h.checkpoints
  rw [under_cons, under_cons, push, push] at checkpoints
  refine ⟨{ t with
    checkpoints := ⟨(base.under ss).length, s'.serial⟩ :: (base.under ss).checkpoints }, ?_, ?_, ?_⟩
  · rw [commit_eq, checkpoints]
  · rw [h.entries, under_cons, under_cons, under_cons, push, push, push, List.append_assoc]
  · rfl

theorem rollback (h : base.Above t (s :: ss)) :
    ∃ t', t.rollback = .ok (s.entries, t') ∧ base.Above t' ss := by
  have checkpoints := h.checkpoints
  have entries := h.entries
  rw [under_cons, push] at checkpoints entries
  have count : t.length - (base.under ss).length = s.entries.length := by
    rw [length, entries, List.length_append, length]
    omega
  refine ⟨{ t with entries := (base.under ss).entries, checkpoints := (base.under ss).checkpoints },
    ?_, rfl, rfl⟩
  rw [rollback_eq, checkpoints]
  simp only [count, entries, List.take_left, List.drop_left]

theorem unwind (h : base.Above t ss) {n : Nat} (hn : n ≤ ss.length) :
    (t.unwind n).1 = (ss.take n).flatMap Stretch.entries ∧
      base.Above (t.unwind n).2 (ss.drop n) := by
  induction n generalizing t ss with
  | zero => exact ⟨rfl, h⟩
  | succ n ih =>
    cases ss with
    | nil => cases hn
    | cons s ss =>
      obtain ⟨t', rolled, above⟩ := h.rollback
      obtain ⟨outer, rest⟩ := ih above (Nat.le_of_succ_le_succ hn)
      rw [Trail.unwind, rolled]
      refine ⟨?_, rest⟩
      rw [List.take_succ_cons, List.flatMap_cons]
      exact congrArg (s.entries ++ ·) outer

end Above

theorem depth_rollback {t' : Trail} {entries : List Entry} (h : t.rollback = .ok (entries, t')) :
    t'.depth + 1 = t.depth := by
  rw [rollback_eq] at h
  cases hc : t.checkpoints with
  | nil =>
    rw [hc] at h
    cases h
  | cons c rest =>
    rw [hc] at h
    cases h
    rw [depth, depth, hc, List.length_cons]

theorem depth_commit {t' : Trail} (h : t.commit = .ok t') : t'.depth + 1 = t.depth := by
  rw [commit_eq] at h
  split at h
  case h_1 => cases h
  case h_2 hc =>
    cases h
    rw [depth, depth, hc, List.length_nil, List.length_singleton]
  case h_3 hc =>
    cases h
    rw [depth, depth, hc, List.length_cons]

theorem depth_unwind (t : Trail) (n : Nat) : (t.unwind n).2.depth = t.depth - n := by
  induction n generalizing t with
  | zero => rfl
  | succ n ih =>
    rw [unwind]
    cases hr : t.rollback with
    | error e =>
      have bottom : t.depth = 0 := by
        rw [rollback_eq] at hr
        cases hc : t.checkpoints with
        | nil => rw [depth, hc, List.length_nil]
        | cons c rest =>
          rw [hc] at hr
          cases hr
      simp only [bottom, Nat.zero_sub]
    | ok answer =>
      obtain ⟨entries, t'⟩ := answer
      have step := depth_rollback hr
      simp only [ih]
      omega

theorem unwind_one {t' : Trail} {entries : List Entry} (h : t.rollback = .ok (entries, t')) :
    t.unwind 1 = (entries, t') := by
  rw [unwind, h]
  simp only [unwind, List.append_nil]

theorem under_append (base : Trail) (ss : List Stretch) (s : Stretch) :
    base.under (ss ++ [s]) = (base.push s).under ss := by
  rw [under, List.foldr_append, under]
  rfl

theorem getElem?_checkpoints_under (base : Trail) (ss : List Stretch) {i : Nat}
    (hi : i < base.depth) :
    (base.under ss).checkpoints.reverse[i]? = base.checkpoints.reverse[i]? := by
  induction ss with
  | nil => rfl
  | cons s ss ih =>
    have bound : i < (base.under ss).checkpoints.reverse.length := by
      rw [List.length_reverse, ← depth, depth_under]
      omega
    rw [under_cons, push, List.reverse_cons, List.getElem?_append_left bound, ih]

def Since (base t : Trail) (pending : List Entry) : Prop :=
  ∃ ss, base.Above t ss ∧ (ss.map Stretch.serial).getLast? = some base.nextSerial ∧
    pending = ss.flatMap Stretch.entries

theorem since_checkpoint (base : Trail) : base.Since base.checkpoint.2 [] := by
  have start : base.Above base [] := ⟨rfl, rfl⟩
  exact ⟨_, start.checkpoint, rfl, rfl⟩

namespace Since

variable {pending : List Entry}

theorem entries_eq (h : base.Since t pending) : t.entries = pending ++ base.entries := by
  obtain ⟨ss, above, -, rfl⟩ := h
  exact above.entries_eq

theorem checkpoint (h : base.Since t pending) : base.Since t.checkpoint.2 pending := by
  obtain ⟨ss, above, bottom, rfl⟩ := h
  refine ⟨_, above.checkpoint, ?_, rfl⟩
  rw [List.map_cons, List.getLast?_cons, bottom]
  rfl

theorem record (h : base.Since t pending) (field : Field) (prior : Slot) :
    base.Since (t.record field prior) (⟨field, prior⟩ :: pending) := by
  obtain ⟨ss, above, bottom, rfl⟩ := h
  cases ss with
  | nil => cases bottom
  | cons s ss => exact ⟨_, above.record field prior, bottom, rfl⟩

theorem commit (h : base.Since t pending) {t' : Trail} (committed : t.commit = .ok t')
    (deep : base.depth < t'.depth) : base.Since t' pending := by
  obtain ⟨ss, above, bottom, rfl⟩ := h
  match ss with
  | [] => cases bottom
  | [s] =>
    have step := depth_commit committed
    rw [above.depth_eq, List.length_singleton] at step
    omega
  | s :: s' :: ss =>
    obtain ⟨t'', ht, joined⟩ := above.commit
    rw [committed] at ht
    cases ht
    refine ⟨_, joined, bottom, ?_⟩
    rw [List.flatMap_cons, List.flatMap_cons, List.flatMap_cons, List.append_assoc]

theorem unwind (h : base.Since t pending) {n : Nat} (deep : base.depth < (t.unwind n).2.depth) :
    ∃ rest, pending = (t.unwind n).1 ++ rest ∧ base.Since (t.unwind n).2 rest := by
  obtain ⟨ss, above, bottom, rfl⟩ := h
  have inside : n < ss.length := by
    rw [depth_unwind, above.depth_eq] at deep
    omega
  obtain ⟨handed, rest⟩ := above.unwind (Nat.le_of_lt inside)
  refine ⟨(ss.drop n).flatMap Stretch.entries, ?_, ss.drop n, rest, ?_, rfl⟩
  · rw [handed, ← List.flatMap_append, List.take_append_drop]
  · rw [List.map_drop, List.getLast?_drop, List.length_map, if_neg (by omega), bottom]

theorem rollback (h : base.Since t pending) {t' : Trail} {entries : List Entry}
    (rolled : t.rollback = .ok (entries, t')) (deep : base.depth < t'.depth) :
    ∃ rest, pending = entries ++ rest ∧ base.Since t' rest := by
  have once := unwind_one rolled
  have step := h.unwind (n := 1)
  rw [once] at step
  exact step deep

theorem rollbackTo (h : base.Since t pending) {m : TrailMark} {t' : Trail} {entries : List Entry}
    (rolled : t.rollbackTo m = .ok (entries, t')) (deep : base.depth < t'.depth) :
    ∃ rest, pending = entries ++ rest ∧ base.Since t' rest := by
  rw [rollbackTo_eq] at rolled
  split at rolled
  case isTrue =>
    have step := h.unwind (n := t.depth + 1 - m.depth)
    rw [Except.ok.inj rolled] at step
    exact step deep
  case isFalse => cases rolled

theorem close (h : base.Since t pending) :
    ∃ t', t.rollbackTo base.checkpoint.1 = .ok (pending, t') ∧
      t'.entries = base.entries ∧ t'.checkpoints = base.checkpoints := by
  obtain ⟨ss, above, bottom, rfl⟩ := h
  obtain ⟨handed, rest⟩ := above.unwind (Nat.le_refl ss.length)
  rw [List.take_length] at handed
  rw [List.drop_length] at rest
  have opened : t.isOpen base.checkpoint.1 = true := by
    obtain ⟨first, hs, hn⟩ := Option.map_eq_some_iff.mp (List.getLast?_map.symm.trans bottom)
    obtain ⟨inner, rfl⟩ := List.getLast?_eq_some_iff.mp hs
    have lies : base.depth < (base.push first).depth := by
      rw [depth, depth, push, List.length_cons]
      omega
    have found : (base.push first).checkpoints.reverse[base.depth]? =
        some ⟨base.length, first.serial⟩ := by
      rw [push, List.reverse_cons, depth, ← List.length_reverse, List.getElem?_concat_length]
    have there : t.checkpointAt? (base.depth + 1) = some ⟨base.length, first.serial⟩ := by
      rw [checkpointAt?, if_neg (Nat.succ_ne_zero _), above.checkpoints, under_append,
        Nat.add_sub_cancel, getElem?_checkpoints_under _ _ lies, found]
    simp only [isOpen, Trail.checkpoint, there, Option.any_some, hn, beq_self_eq_true]
  have count : t.depth + 1 - base.checkpoint.1.depth = ss.length := by
    rw [above.depth_eq]
    simp only [Trail.checkpoint]
    omega
  refine ⟨(t.unwind ss.length).2, ?_, rest.entries, rest.checkpoints⟩
  rw [rollbackTo_eq, if_pos opened, count, ← handed]

end Since

end Trail

end MarkSweep

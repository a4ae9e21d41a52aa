import MarkSweep.Proofs.Trail.Run

/-!
The history of a trail: at which positions of a run entries are recorded, which of them are undone
by a rollback later on, and which are held under the checkpoints that are open at the end.
-/

namespace MarkSweep

namespace Trail

def Op.records? (t : Trail) : Op → Option Entry
  | record field prior => if t.depth = 0 then none else some ⟨field, prior⟩
  | _ => none

def recorded? (ops : List Op) (i : Nat) : Option Entry := ops[i]?.bind (·.records? (run (ops.take i)))

def depthAt (ops : List Op) (k : Nat) : Nat := (run (ops.take k)).depth

/-- A later rollback closes a checkpoint that was open at this position and has been ever since. -/
def IsUndone (ops : List Op) (i : Nat) : Prop :=
  ∃ j o, i < j ∧ ops[j]? = some o ∧ o.IsRollback ∧
    ∀ k, i < k → k ≤ j → depthAt ops (j + 1) < depthAt ops k

/-- An entry is recorded at this position and not undone, and no checkpoint of this depth or a lower
one has been closed since. -/
structure IsHeld (ops : List Op) (depth i : Nat) : Prop where
  recorded : (recorded? ops i).isSome
  kept : ¬IsUndone ops i
  covered : ∀ k, i < k → k ≤ ops.length → depth ≤ depthAt ops k

variable {ops before since : List Op} {o : Op} {i : Nat}

theorem lt_of_recorded (h : (recorded? ops i).isSome) : i < ops.length := by
  by_contra outside
  rw [recorded?, List.getElem?_eq_none (Nat.not_lt.mp outside)] at h
  cases h

theorem IsHeld.le_depth {depth : Nat} (h : IsHeld ops depth i) : depth ≤ (run ops).depth := by
  have last := h.covered ops.length (lt_of_recorded h.recorded) (Nat.le_refl _)
  rwa [depthAt, List.take_length] at last

theorem depthAt_concat {k : Nat} (hk : k ≤ ops.length) :
    depthAt (ops ++ [o]) k = depthAt ops k := by
  rw [depthAt, List.take_append_of_le_length hk, depthAt]

theorem depthAt_concat_self : depthAt (ops ++ [o]) (ops.length + 1) = (o.apply (run ops)).depth := by
  have whole : (ops ++ [o]).take (ops.length + 1) = ops ++ [o] := List.take_of_length_le (by simp)
  rw [depthAt, whole, run_concat]

theorem recorded?_concat (hi : i < ops.length) : recorded? (ops ++ [o]) i = recorded? ops i := by
  rw [recorded?, List.getElem?_append_left hi, List.take_append_of_le_length (Nat.le_of_lt hi),
    recorded?]

theorem recorded?_concat_self : recorded? (ops ++ [o]) ops.length = o.records? (run ops) := by
  rw [recorded?, List.getElem?_concat_length, List.take_left]
  rfl

theorem isUndone_concat (hi : i < ops.length) :
    IsUndone (ops ++ [o]) i ↔ IsUndone ops i ∨ o.IsRollback ∧
      ∀ k, i < k → k ≤ ops.length → (o.apply (run ops)).depth < depthAt ops k := by
  constructor
  · rintro ⟨j, o', hj, place, rollback, closed⟩
    have bound := (List.getElem?_eq_some_iff.mp place).1
    rw [List.length_append, List.length_singleton] at bound
    rcases Nat.lt_or_eq_of_le (Nat.le_of_lt_succ bound) with inside | rfl
    · refine .inl ⟨j, o', hj, ?_, rollback, ?_⟩
      · rwa [List.getElem?_append_left inside] at place
      · intro k hik hkj
        have lower := closed k hik hkj
        rwa [depthAt_concat inside, depthAt_concat (by omega)] at lower
    · rw [List.getElem?_concat_length] at place
      cases place
      refine .inr ⟨rollback, ?_⟩
      intro k hik hk
      have lower := closed k hik hk
      rwa [depthAt_concat_self, depthAt_concat hk] at lower
  · rintro (⟨j, o', hj, place, rollback, closed⟩ | ⟨rollback, closed⟩)
    · have inside := (List.getElem?_eq_some_iff.mp place).1
      refine ⟨j, o', hj, ?_, rollback, ?_⟩
      · rwa [List.getElem?_append_left inside]
      · intro k hik hkj
        rw [depthAt_concat inside, depthAt_concat (by omega)]
        exact closed k hik hkj
    · refine ⟨ops.length, o, hi, List.getElem?_concat_length, rollback, ?_⟩
      intro k hik hk
      rw [depthAt_concat_self, depthAt_concat hk]
      exact closed k hik hk

theorem covered_concat {depth : Nat} (hi : i ≤ ops.length) :
    (∀ k, i < k → k ≤ (ops ++ [o]).length → depth ≤ depthAt (ops ++ [o]) k) ↔
      (∀ k, i < k → k ≤ ops.length → depth ≤ depthAt ops k) ∧
        depth ≤ (o.apply (run ops)).depth := by
  rw [List.length_append, List.length_singleton]
  constructor
  · intro covered
    constructor
    · intro k hik hk
      have bound := covered k hik (Nat.le_succ_of_le hk)
      rwa [depthAt_concat hk] at bound
    · have last := covered (ops.length + 1) (Nat.lt_succ_of_le hi) (Nat.le_refl _)
      rwa [depthAt_concat_self] at last
  · rintro ⟨covered, last⟩ k hik hk
    rcases Nat.lt_or_eq_of_le hk with old | rfl
    · rw [depthAt_concat (Nat.le_of_lt_succ old)]
      exact covered k hik (Nat.le_of_lt_succ old)
    · rwa [depthAt_concat_self]

theorem isHeld_concat_length {depth : Nat} : IsHeld (ops ++ [o]) depth ops.length ↔
    depth ≤ (o.apply (run ops)).depth ∧ (o.records? (run ops)).isSome := by
  constructor
  · rintro ⟨recorded, -, covered⟩
    rw [recorded?_concat_self] at recorded
    exact ⟨((covered_concat (Nat.le_refl _)).mp covered).2, recorded⟩
  · rintro ⟨last, recorded⟩
    refine ⟨?_, ?_, (covered_concat (Nat.le_refl _)).mpr ⟨?_, last⟩⟩
    · rwa [recorded?_concat_self]
    · rintro ⟨j, o', hj, place, -⟩
      have bound := (List.getElem?_eq_some_iff.mp place).1
      rw [List.length_append, List.length_singleton] at bound
      omega
    · intro k hik hk
      omega

theorem isHeld_concat_of_lt {depth : Nat} (inside : i < ops.length) :
    IsHeld (ops ++ [o]) depth i ↔ depth ≤ (o.apply (run ops)).depth ∧ IsHeld ops depth i ∧
      (o.IsRollback → ¬IsHeld ops ((o.apply (run ops)).depth + 1) i) := by
  constructor
  · rintro ⟨recorded, kept, covered⟩
    rw [recorded?_concat inside] at recorded
    rw [isUndone_concat inside, not_or] at kept
    obtain ⟨earlier, last⟩ := (covered_concat (Nat.le_of_lt inside)).mp covered
    refine ⟨last, ⟨recorded, kept.1, earlier⟩, ?_⟩
    intro rollback above
    exact kept.2 ⟨rollback, above.covered⟩
  · rintro ⟨last, held, spared⟩
    refine ⟨?_, ?_, (covered_concat (Nat.le_of_lt inside)).mpr ⟨held.covered, last⟩⟩
    · rw [recorded?_concat inside]
      exact held.recorded
    · rw [isUndone_concat inside]
      rintro (undone | ⟨rollback, closed⟩)
      · exact held.kept undone
      · exact spared rollback ⟨held.recorded, held.kept, closed⟩

theorem isHeld_concat {depth : Nat} :
    IsHeld (ops ++ [o]) depth i ↔ depth ≤ (o.apply (run ops)).depth ∧
      (i = ops.length ∧ (o.records? (run ops)).isSome ∨
        IsHeld ops depth i ∧ (o.IsRollback → ¬IsHeld ops ((o.apply (run ops)).depth + 1) i)) := by
  have old {d : Nat} (held : IsHeld ops d i) : i < ops.length := lt_of_recorded held.recorded
  rcases Nat.lt_trichotomy i ops.length with inside | rfl | outside
  · simp only [isHeld_concat_of_lt inside, Nat.ne_of_lt inside, false_and, false_or]
  · have fresh (d : Nat) : ¬IsHeld ops d ops.length := fun held => Nat.lt_irrefl _ (old held)
    simp only [isHeld_concat_length, fresh, true_and, false_and, or_false]
  · constructor
    · intro held
      have bound := lt_of_recorded held.recorded
      rw [List.length_append, List.length_singleton] at bound
      omega
    · rintro ⟨-, ⟨rfl, -⟩ | ⟨held, -⟩⟩
      · exact absurd outside (Nat.lt_irrefl _)
      · exact absurd (old held) (Nat.lt_asymm outside)

theorem isHeld_concat_of_silent {depth : Nat} (nothing : o.records? (run ops) = none)
    (spared : ¬o.IsRollback) (bound : depth ≤ (o.apply (run ops)).depth) :
    IsHeld (ops ++ [o]) depth i ↔ IsHeld ops depth i := by
  rw [isHeld_concat, nothing]
  simp only [bound, spared, Option.isSome_none, Bool.false_eq_true, and_false, false_or,
    false_implies, and_true, true_and]

theorem isHeld_concat_of_isRollback {depth : Nat} (rollback : o.IsRollback) :
    IsHeld (ops ++ [o]) depth i ↔ depth ≤ (o.apply (run ops)).depth ∧
      IsHeld ops depth i ∧ ¬IsHeld ops ((o.apply (run ops)).depth + 1) i := by
  have nothing : o.records? (run ops) = none := by
    cases o with
    | rollback | rollbackTo => rfl
    | checkpoint | record | commit => exact rollback.elim
  rw [isHeld_concat, nothing]
  simp only [rollback, Option.isSome_none, Bool.false_eq_true, and_false, false_or, true_implies]

theorem exists_opened (ops : List Op) {depth : Nat} (h : depth < (run ops).depth) :
    ∃ before since, ops = before ++ .checkpoint :: since ∧ StaysOpen before since ∧
      (run before).depth = depth := by
  induction ops using List.reverseRecOn with
  | nil => cases h
  | append_singleton ops o ih =>
    rw [run_concat] at h
    rcases Nat.lt_or_ge depth (run ops).depth with below | top
    · obtain ⟨before, since, rfl, stays, level⟩ := ih below
      refine ⟨before, since ++ [o], ?_, ?_, level⟩
      · rw [List.append_assoc, List.cons_append]
      · rw [staysOpen_concat, level]
        exact ⟨stays, h⟩
    · by_cases opening : o = .checkpoint
      · subst opening
        rw [Op.apply, depth_checkpoint] at h
        refine ⟨ops, [], rfl, ?_, by omega⟩
        intro part hp
        rw [List.prefix_nil.mp hp, opened_nil, depth_checkpoint]
        exact Nat.lt_succ_self _
      · have shrinks : (o.apply (run ops)).depth ≤ (run ops).depth :=
          (outer_apply opening (run ops)).1.length_le
        omega

theorem isHeld_opened (stays : StaysOpen before since) :
    IsHeld (before ++ .checkpoint :: since) ((run before).depth + 1) i ↔
      before.length < i ∧ (recorded? (before ++ .checkpoint :: since) i).isSome ∧
        ¬IsUndone (before ++ .checkpoint :: since) i := by
  constructor
  · intro held
    refine ⟨?_, held.recorded, held.kept⟩
    by_contra early
    rcases Nat.lt_or_eq_of_le (Nat.not_lt.mp early) with inside | rfl
    · have low := held.covered before.length inside (by simp)
      rw [depthAt, List.take_left] at low
      omega
    · have recorded := held.recorded
      rw [recorded?, List.getElem?_append_right (Nat.le_refl _), Nat.sub_self] at recorded
      cases recorded
  · rintro ⟨late, recorded, kept⟩
    refine ⟨recorded, kept, ?_⟩
    intro k hik hk
    have position : k = (before ++ [Op.checkpoint]).length + (k - before.length - 1) := by
      rw [List.length_append, List.length_singleton]
      omega
    rw [List.append_cons, depthAt, position, List.take_length_add_append, List.append_assoc]
    exact stays _ (List.take_prefix _ since)

end Trail

end MarkSweep

import MarkSweep.Proofs.Trail.Run

namespace MarkSweep

namespace Trail

variable {t base : Trail} {before since : List Op}

theorem Since.apply {pending : List Entry} (h : base.Since t pending) {o : Op}
    (deep : base.depth < (o.apply t).depth) : ∃ rest, base.Since (o.apply t) rest := by
  have rolledBack (rollback : o.IsRollback) : ∃ rest, base.Since (o.apply t) rest := by
    obtain ⟨n, -, e⟩ := exists_unwind rollback t
    rw [e] at deep ⊢
    obtain ⟨rest, -, since⟩ := h.unwind deep
    exact ⟨rest, since⟩
  cases o with
  | checkpoint => exact ⟨pending, h.checkpoint⟩
  | record field prior => exact ⟨_, h.record field prior⟩
  | rollback => exact rolledBack trivial
  | rollbackTo m => exact rolledBack trivial
  | commit =>
    rw [Op.apply] at deep ⊢
    cases committed : t.commit with
    | error e =>
      rw [merge_of_error committed]
      exact ⟨pending, h⟩
    | ok t' =>
      rw [merge_of_ok committed] at deep ⊢
      exact ⟨pending, h.commit committed deep⟩

structure IsSpent (t : Trail) (serial : Nat) : Prop where
  lt : serial < t.nextSerial
  ne : ∀ c ∈ t.checkpoints, c.serial ≠ serial

namespace IsSpent

variable {serial : Nat}

theorem apply (h : t.IsSpent serial) (o : Op) : (o.apply t).IsSpent serial := by
  by_cases opening : o = .checkpoint
  · subst opening
    refine ⟨Nat.lt_succ_of_lt h.lt, ?_⟩
    intro c hc
    rcases List.mem_cons.mp hc with rfl | hc
    · exact Nat.ne_of_gt h.lt
    · exact h.ne c hc
  · obtain ⟨outer, next⟩ := outer_apply opening t
    refine ⟨by rw [next]; exact h.lt, ?_⟩
    intro c hc
    exact h.ne c (outer.subset hc)

end IsSpent

example : (opened [] [.rollback, .checkpoint, .record ⟨⟨0, 0⟩, 0⟩ .empty]).rollbackTo ⟨1, 0⟩ =
    .error .noCheckpoint := by decide

end Trail

end MarkSweep

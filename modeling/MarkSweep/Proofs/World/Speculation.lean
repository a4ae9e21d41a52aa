import MarkSweep.Proofs.Collector.Speculation
import MarkSweep.Proofs.World.Run

namespace MarkSweep

namespace World

def Op.IsTrailed (id : CollectorId) : Op → Prop
  | edit other e => other = id → e.IsTrailed
  | _ => True

def speculate (before : List Op) (id : CollectorId) (ops : List Op) : Collector :=
  (run (before ++ .edit id .checkpoint :: ops)).collector id

def Remains (before : List Op) (id : CollectorId) (ops : List Op) (r : Ref) : Prop :=
  ∀ part, part <+: ops → (speculate before id part).isLive r

variable {before ops : List Op} {id : CollectorId}

theorem Remains.of_prefix {r : Ref} {part : List Op} (h : Remains before id ops r)
    (hp : part <+: ops) : Remains before id part r :=
  fun inner hi => h inner (hi.trans hp)

theorem speculate_nil (hid : id < (run before).collectors.size) :
    speculate before id [] = ((run before).collector id).checkpoint.2 := by
  rw [speculate, run_concat, collector_edit hid]
  rfl

theorem undoable_speculate (hid : id < (run before).collectors.size)
    (trailed : ∀ o ∈ ops, o.IsTrailed id)
    (deep : ∀ part, part <+: ops →
      ((run before).collector id).trail.depth < (speculate before id part).trail.depth) :
    ∃ pending, ((run before).collector id).Undoable (speculate before id ops) pending
      (Remains before id ops) := by
  induction ops using List.reverseRecOn with
  | nil =>
    rw [speculate_nil hid]
    exact ⟨[], .start _ _⟩
  | append_singleton ops o ih =>
    have shorter : ops <+: ops ++ [o] := List.prefix_append ops [o]
    obtain ⟨pending, h⟩ := ih (fun o ho => trailed o (List.mem_append_left _ ho))
      (fun part hp => deep part (hp.trans shorter))
    have kept : ((run before).collector id).Undoable (speculate before id ops) pending
        (Remains before id (ops ++ [o])) := h.mono fun r hr => hr.of_prefix shorter
    have live (r : Ref) (hr : Remains before id (ops ++ [o]) r) :
        (speculate before id (ops ++ [o])).isLive r := hr _ List.prefix_rfl
    have exist : id < (run (before ++ .edit id .checkpoint :: ops)).collectors.size :=
      Nat.lt_of_lt_of_le hid (size_le_size_run before _)
    have next : speculate before id (ops ++ [o]) =
        (o.apply (run (before ++ .edit id .checkpoint :: ops))).collector id := by
      rw [speculate, ← List.cons_append, ← List.append_assoc, run_concat]
    have deeper := deep (ops ++ [o]) List.prefix_rfl
    rcases apply_cases exist o with ⟨e, rfl, edited⟩ | move
    · rw [next, edited] at deeper live ⊢
      have he : e.IsTrailed := trailed (.edit id e) (by simp) rfl
      exact kept.edit he deeper live
    · rw [next] at live ⊢
      exact ⟨pending, kept.spares (move.spares (consistent_run _ exist)) live⟩

/-- While its checkpoint stays open, speculation can be undone: every vector that remains gets back
the slots it had, and what they lead to remains as well. -/
theorem rollbackTo_undoes_speculation (before ops : List Op) (id : CollectorId)
    (hid : id < (run before).collectors.size) (trailed : ∀ o ∈ ops, o.IsTrailed id)
    (deep : ∀ part, part <+: ops → ((run before).collector id).checkpoint.1.depth ≤
      (speculate before id part).trail.depth) :
    ∃ n c', (speculate before id ops).rollbackTo ((run before).collector id).checkpoint.1 =
        (.ok n, c') ∧
      c'.trail.depth = ((run before).collector id).trail.depth ∧
      c'.trail.length = ((run before).collector id).trail.length ∧
      ∀ v slots, ((run before).collector id).heap.object? v = some (.vector slots) →
        Remains before id ops v →
        c'.heap.object? v = some (.vector slots) ∧
        ∀ target, .node target ∈ slots → ((run before).collector id).isLive target →
          Remains before id ops target ∧ c'.isLive target := by
  obtain ⟨pending, h⟩ := undoable_speculate hid trailed deep
  obtain ⟨n, c', rolled, entries, checkpoints, heap⟩ := h.close
  refine ⟨n, c', rolled, ?_, ?_, ?_⟩
  · rw [Trail.depth, checkpoints, Trail.depth]
  · rw [Trail.length, entries, Trail.length]
  · intro v slots hv kept
    constructor
    · rw [heap]
      exact h.restored v slots hv kept
    · intro target ht hb
      have remains : Remains before id ops target := by
        intro part hp
        have trailed' : ∀ o ∈ part, o.IsTrailed id := fun o ho => trailed o (hp.subset ho)
        obtain ⟨_, hpart⟩ := undoable_speculate hid trailed' fun q hq => deep q (hq.trans hp)
        exact hpart.spared v slots target hv (kept.of_prefix hp) ht hb
      refine ⟨remains, ?_⟩
      rw [Collector.isLive, heap, Heap.isLive_restore]
      exact remains ops List.prefix_rfl

def opening : List Op :=
  [.create {}, .allocate 0 (.ofKind .chunk) (.zeros 3),
    .allocate 0 (.ofKind .vector) (.vector #[.node ⟨0, 0⟩]), .keep 0 ⟨1, 0⟩]

/-- The slot is overwritten twice, the second time in a checkpoint of its own, with a collection in
between. -/
def overwriting : List Op :=
  [.edit 0 (.setSlotTrailed ⟨⟨1, 0⟩, 0⟩ .empty), .tryTrigger 0, .edit 0 .checkpoint,
    .edit 0 (.setSlotTrailed ⟨⟨1, 0⟩, 0⟩ (.scalar 7)), .edit 0 .commit]

theorem rollbackTo_undoes_overwriting :
    ∃ n c', (speculate opening 0 overwriting).rollbackTo
        ((run opening).collector 0).checkpoint.1 = (.ok n, c') ∧
      c'.heap.object? ⟨1, 0⟩ = some (.vector #[.node ⟨0, 0⟩]) ∧ c'.isLive ⟨0, 0⟩ := by
  have trailed : ∀ o ∈ overwriting, o.IsTrailed 0 := by
    simp [overwriting, Op.IsTrailed, Collector.Edit.IsTrailed]
  have deep : ∀ part ∈ overwriting.inits, ((run opening).collector 0).checkpoint.1.depth ≤
      (speculate opening 0 part).trail.depth := by decide +kernel
  have live : ∀ part ∈ overwriting.inits, (speculate opening 0 part).isLive ⟨1, 0⟩ := by
    decide +kernel
  have vector : ((run opening).collector 0).heap.object? ⟨1, 0⟩ =
      some (.vector #[.node ⟨0, 0⟩]) := rfl
  obtain ⟨n, c', rolled, -, -, undone⟩ := rollbackTo_undoes_speculation opening overwriting 0
    (by decide +kernel) trailed (fun part hp => deep part ((List.mem_inits _ _).mpr hp))
  obtain ⟨restored, targets⟩ := undone ⟨1, 0⟩ _ vector
    (fun part hp => live part ((List.mem_inits _ _).mpr hp))
  have chunk := targets ⟨0, 0⟩ (by simp) (by decide +kernel)
  exact ⟨n, c', rolled, restored, chunk.2⟩

end World

end MarkSweep

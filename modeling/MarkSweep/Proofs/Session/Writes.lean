import MarkSweep.Proofs.Collector.Writes
import MarkSweep.Proofs.Session.Action

namespace MarkSweep

def Op.IsWrite : Op → Prop
  | setSlot .. | setSlotTrailed .. | write .. | setFlag .. | setSecondary .. | rollback
    | rollbackTo _ | commit => True
  | _ => False

namespace Session

theorem recoils_perform {o : Op} (write : o.IsWrite) (id : CollectorId) :
    Recoils (perform id o) := by
  cases o with
  | setSlot =>
    refine (reads_find _ _).bind_recoils fun r => (reads_slot _).bind_recoils fun value => ?_
    apply (recoils_tryEdit id _).map
    exact fun c e c' denied => (((c.isPrecise_setSlot _ _).error e c').mp denied).2
  | setSlotTrailed =>
    refine (reads_find _ _).bind_recoils fun r => (reads_slot _).bind_recoils fun value => ?_
    apply (recoils_tryEdit id _).map
    exact fun c e c' denied => (((c.isPrecise_setSlotTrailed _ _).error e c').mp denied).2
  | write =>
    refine (reads_find _ _).bind_recoils fun r => (recoils_tryEdit id ?_).map _
    exact fun c e c' denied => (((c.isPrecise_alterChunk _ _).error e c').mp denied).2
  | setFlag | setSecondary =>
    refine (reads_find _ _).bind_recoils fun r => (recoils_tryEdit id ?_).map _
    exact fun c e c' denied => (((c.isPrecise_modifyHeader _ _).error e c').mp denied).2
  | rollback =>
    refine (recoils_tryEdit id ?_).map _
    exact fun c e c' denied => ((c.rollback_eq_error_iff e c').mp denied).2.2
  | rollbackTo =>
    refine (reads_find _ _).bind_recoils fun m => (recoils_tryEdit id ?_).map _
    exact fun c e c' denied => ((c.rollbackTo_eq_error_iff m e c').mp denied).2.2
  | commit =>
    refine (recoils_tryEdit id ?_).map _
    exact fun c e c' denied => ((c.commit_eq_error_iff e c').mp denied).2.2
  | _ => exact write.elim

end Session

namespace Collector

/-- A write fails for the reasons that are told here and for no other, and then it leaves no trace;
otherwise it changes what it is about, and nothing else. -/
theorem writes_are_precise (c : Collector) :
    (∀ f value, c.IsPrecise f.node (c.setSlot f value) (c.Denies f) (SlotChange f value)
      fun _ => c.trail) ∧
    (∀ f value, c.IsPrecise f.node (c.setSlotTrailed f value) (c.Denies f) (SlotChange f value)
      fun prior => if c.trail.depth = 0 then c.trail
        else { c.trail with entries := ⟨f, prior⟩ :: c.trail.entries }) ∧
    (∀ (α : Type) (r : Ref)
        (f : (bytes : ByteArray) → α × { altered : ByteArray // altered.size = bytes.size }),
      c.IsPrecise r (c.alterChunk r f)
        (fun e => c.isLive r = false ∧ e = .staleNode r ∨ c.isVector r ∧ e = .notAChunk r)
        (fun x a x' => ∃ bytes, x.object = .chunk bytes ∧ a = (f bytes).1 ∧
          x' = { x with object := .chunk (f bytes).2 })
        fun _ => c.trail) ∧
    (∀ r f value, c.IsPrecise r (c.setFlag r f value)
      (fun e => c.isLive r = false ∧ e = .staleNode r)
      (fun x _ x' => x'.object = x.object ∧ x'.header.flag f = value ∧
        ∀ i, i ≠ f.position → x'.header.word.getLsbD i = x.header.word.getLsbD i)
      fun _ => c.trail) ∧
    (∀ r sec, c.IsPrecise r (c.setSecondary r sec)
      (fun e => c.isLive r = false ∧ e = .staleNode r)
      (fun x _ x' => x'.object = x.object ∧ x'.header.secondary = sec.toBitVec.setWidth 7 ∧
        ∀ i, i < 8 ∨ 15 ≤ i → x'.header.word.getLsbD i = x.header.word.getLsbD i)
      fun _ => c.trail) ∧
    (∀ e c', c.rollback = (.error e, c') ↔ c.trail.depth = 0 ∧ e = .noCheckpoint ∧ c' = c) ∧
    (∀ m e c', c.rollbackTo m = (.error e, c') ↔
      c.trail.isOpen m = false ∧ e = .noCheckpoint ∧ c' = c) ∧
    (∀ e c', c.commit = (.error e, c') ↔ c.trail.depth = 0 ∧ e = .noCheckpoint ∧ c' = c) ∧
    ∀ (id : CollectorId) (o : Op) (s s' : Session) (e : Failure), o.IsWrite →
      (Session.perform id o).run.run s = (.error e, s') → s' = s := by
  refine ⟨c.isPrecise_setSlot, c.isPrecise_setSlotTrailed, fun α r f => c.isPrecise_alterChunk r f,
    fun r f value => ?_, fun r sec => ?_, c.rollback_eq_error_iff, c.rollbackTo_eq_error_iff,
    c.commit_eq_error_iff, fun id o s s' e write => Session.recoils_perform write id s s' e⟩
  · refine (c.isPrecise_modifyHeader r _).mono ?_
    rintro x - x' rfl
    exact ⟨rfl, x.header.flag_setFlag f value, fun i ne => x.header.getLsbD_setFlag f value ne⟩
  · refine (c.isPrecise_modifyHeader r _).mono ?_
    rintro x - x' rfl
    exact ⟨rfl, x.header.secondary_withSecondary sec,
      fun i outside => x.header.getLsbD_withSecondary sec outside⟩

end Collector

end MarkSweep

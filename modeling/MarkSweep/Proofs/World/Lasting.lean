import MarkSweep.Proofs.Collector.Constancy
import MarkSweep.Proofs.World.Order
import MarkSweep.Proofs.World.Speculation

/-!
Nodes that last: live at some moment of a run and after every operation since. Such a node has not
been reclaimed in between, so it is the same node still.
-/

namespace MarkSweep

namespace World

def Lasts (before since : List Op) (id : CollectorId) (node : Ref) : Prop :=
  ∀ part, part <+: since → ((run (before ++ part)).collector id).isLive node

def Op.patch (id : CollectorId) (node : Ref) : Op → ByteArray → ByteArray
  | edit other e => fun bytes => if other = id then e.patch node bytes else bytes
  | _ => fun bytes => bytes

def patch (id : CollectorId) (node : Ref) (ops : List Op) (bytes : ByteArray) : ByteArray :=
  ops.foldl (fun bytes o => o.patch id node bytes) bytes

variable {w : World} {before since : List Op} {o : Op} {id : CollectorId} {node : Ref}

theorem lasts_nil : Lasts before [] id node ↔ ((run before).collector id).isLive node := by
  constructor
  · intro h
    simpa using h [] List.prefix_rfl
  · rintro live part hp
    rw [List.prefix_nil.mp hp, List.append_nil]
    exact live

theorem lasts_cons : Lasts before (o :: since) id node ↔
    ((run before).collector id).isLive node ∧ Lasts (before ++ [o]) since id node := by
  constructor
  · intro h
    refine ⟨by simpa using h [] List.nil_prefix, ?_⟩
    intro part hp
    rw [List.append_assoc]
    exact h (o :: part) (List.cons_prefix_cons.mpr ⟨rfl, hp⟩)
  · rintro ⟨first, h⟩ part hp
    rcases List.prefix_cons_iff.mp hp with rfl | ⟨rest, rfl, hr⟩
    · rwa [List.append_nil]
    · have last := h rest hr
      rwa [List.append_assoc] at last

theorem lasts_concat : Lasts before (since ++ [o]) id node ↔
    Lasts before since id node ∧ ((run (before ++ since ++ [o])).collector id).isLive node := by
  constructor
  · intro h
    refine ⟨fun part hp => h part (hp.trans (List.prefix_append since [o])), ?_⟩
    rw [List.append_assoc]
    exact h _ List.prefix_rfl
  · rintro ⟨h, last⟩ part hp
    rcases List.prefix_concat_iff.mp hp with rfl | hp
    · rwa [← List.append_assoc]
    · exact h part hp

theorem Lasts.isLive (h : Lasts before since id node) :
    ((run (before ++ since)).collector id).isLive node :=
  h since List.prefix_rfl

theorem Lasts.isLive_start (h : Lasts before since id node) :
    ((run before).collector id).isLive node := by
  simpa using h [] List.nil_prefix

theorem alike_apply (hid : id < w.collectors.size) (hh : (w.collector id).heap.Consistent)
    (before : (w.collector id).isLive node) (after : ((o.apply w).collector id).isLive node) :
    (w.collector id).Alike ((o.apply w).collector id) node := by
  rcases apply_cases hid o with ⟨e, -, h⟩ | move
  · rw [h]
    exact Collector.Edit.alike_apply _ e node
  · exact move.alike hh before after

theorem patch_eq_self (unwritten : ∀ e, o ≠ .edit id e) (bytes : ByteArray) :
    o.patch id node bytes = bytes := by
  cases o with
  | edit other e =>
    have ne : other ≠ id := by
      rintro rfl
      exact unwritten e rfl
    exact if_neg ne
  | _ => rfl

theorem bytes?_apply (hid : id < w.collectors.size) (hh : (w.collector id).heap.Consistent)
    (before : (w.collector id).isLive node) (after : ((o.apply w).collector id).isLive node) :
    ((o.apply w).collector id).bytes? node =
      ((w.collector id).bytes? node).map (o.patch id node) := by
  by_cases written : ∃ e, o = .edit id e
  · obtain ⟨e, rfl⟩ := written
    have same : (Op.edit id e).patch id node = e.patch node := by
      funext bytes
      exact if_pos rfl
    rw [collector_edit hid, Collector.Edit.bytes?_apply, same]
  · have unwritten (e : Collector.Edit) (h : o = .edit id e) : False := written ⟨e, h⟩
    have same : o.patch id node = fun bytes => bytes := funext (patch_eq_self unwritten)
    rcases apply_cases hid o with ⟨e, h, -⟩ | move
    · exact (unwritten e h).elim
    · rw [same, Option.map_id', move.bytes? hh before after]

namespace Lasts

theorem alike (hid : id < (run before).collectors.size) (h : Lasts before since id node) :
    ((run before).collector id).Alike ((run (before ++ since)).collector id) node := by
  induction since using List.reverseRecOn with
  | nil =>
    rw [List.append_nil]
    exact .refl _ node
  | append_singleton since o ih =>
    obtain ⟨earlier, live⟩ := lasts_concat.mp h
    have exist := Nat.lt_of_lt_of_le hid (size_le_size_run before since)
    rw [run_concat] at live
    rw [← List.append_assoc, run_concat]
    exact (ih earlier).trans (alike_apply exist (orderly_run _ id).heap earlier.isLive live)

theorem bytes? (hid : id < (run before).collectors.size) (h : Lasts before since id node) :
    ((run (before ++ since)).collector id).bytes? node =
      (((run before).collector id).bytes? node).map (patch id node since) := by
  induction since using List.reverseRecOn with
  | nil =>
    rw [List.append_nil]
    exact Option.map_id'.symm
  | append_singleton since o ih =>
    obtain ⟨earlier, live⟩ := lasts_concat.mp h
    have exist := Nat.lt_of_lt_of_le hid (size_le_size_run before since)
    rw [run_concat] at live
    rw [← List.append_assoc, run_concat,
      bytes?_apply exist (orderly_run _ id).heap earlier.isLive live, ih earlier, Option.map_map]
    congr 1
    funext bytes
    rw [Function.comp_apply, patch, patch, List.foldl_concat]

end Lasts

end World

end MarkSweep

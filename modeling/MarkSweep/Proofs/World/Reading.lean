import MarkSweep.Proofs.World.Interning

namespace MarkSweep

theorem fromUTF8?_toUTF8 (text : String) : String.fromUTF8? text.toUTF8 = some text :=
  dif_pos text.isValidUTF8

theorem Collector.string?_eq {c : Collector} {r : Ref} {bytes : ByteArray}
    (kind : c.kind? r = some .string) (h : c.bytes? r = some bytes) :
    c.string? r = String.fromUTF8? bytes := by
  rw [kind?, header?, Heap.header?, Option.map_map] at kind
  obtain ⟨x, hx, string⟩ := Option.map_eq_some_iff.mp kind
  rw [bytes?, Heap.object?, hx, Option.map_some, Option.bind_some] at h
  rw [string?, hx]
  simp only [Function.comp_apply] at string
  simp only [string, if_true]
  obtain ⟨header, object⟩ := x
  cases object with
  | chunk held =>
    cases h
    rfl
  | vector slots => cases h

namespace World

variable {before since : List Op} {o : Op} {id : CollectorId} {text : String} {node : Ref}

theorem patch_eq_self_of_unwritten
    (unwritten : ∀ start bytes, .edit id (.writeChunk node start bytes) ∉ since)
    (held : ByteArray) : patch id node since held = held := by
  induction since generalizing held with
  | nil => rfl
  | cons o since ih =>
    have first : o.patch id node held = held := by
      cases o with
      | edit other e =>
        cases e with
        | writeChunk r start bytes =>
          rw [Op.patch]
          split
          case isTrue same =>
            subst same
            have ne : r ≠ node := by
              rintro rfl
              exact unwritten start bytes List.mem_cons_self
            exact if_neg ne
          case isFalse => rfl
        | _ => exact ite_self held
      | _ => rfl
    rw [patch, List.foldl_cons, first, ← patch]
    apply ih
    intro start bytes written
    exact unwritten start bytes (List.mem_cons_of_mem o written)

namespace Enters

theorem string? (h : Enters before since id text node) :
    ((run (before ++ .intern id text :: since)).collector id).string? node =
      String.fromUTF8? (patch id node since text.toUTF8) :=
  Collector.string?_eq h.kind? h.bytes?

theorem string?_of_unwritten (h : Enters before since id text node)
    (unwritten : ∀ start bytes, .edit id (.writeChunk node start bytes) ∉ since) :
    ((run (before ++ .intern id text :: since)).collector id).string? node = some text := by
  rw [h.string?, patch_eq_self_of_unwritten unwritten, fromUTF8?_toUTF8]

end Enters

/-- Whatever runs, the node of an interned text reads as the bytes of that text with the writes to
this very node applied, and so as the text itself if there were none. Nothing else shows: neither
writes to other nodes or to headers, nor collections, nor what lay in the same place before. So
different texts have different nodes, which are not taken for each other unless one was written. -/
theorem interned_node_reads_as_written (ops : List Op) (id : CollectorId)
    (hid : id < (run ops).collectors.size) :
    (∀ text node, ((run ops).collector id).findInterned text = some node →
      ∃ before since, ops = before ++ .intern id text :: since ∧
        Enters before since id text node ∧
        ((run ops).collector id).string? node =
          String.fromUTF8? (patch id node since text.toUTF8) ∧
        ((∀ start bytes, .edit id (.writeChunk node start bytes) ∉ since) →
          ((run ops).collector id).string? node = some text)) ∧
    (∀ text other node node', ((run ops).collector id).findInterned text = some node →
      ((run ops).collector id).findInterned other = some node' → text ≠ other →
        node ≠ node' ∧
        ((∀ start bytes, .edit id (.writeChunk node start bytes) ∉ ops) →
          ((run ops).collector id).string? node ≠ some other)) ∧
    ∀ text, ((run ops).collector id).findInterned text = none →
      (((run ops).intern id text).2.collector id).string? ((run ops).intern id text).1 =
        some text := by
  refine ⟨?_, ?_, ?_⟩
  · intro text node h
    obtain ⟨before, since, rfl, enters⟩ := exists_enters ops h
    exact ⟨before, since, rfl, enters, enters.string?, enters.string?_of_unwritten⟩
  · intro text other node node' h h' ne
    constructor
    · rintro rfl
      exact ne ((orderly_run ops id).interned_inj text other node h h')
    · intro unwritten
      obtain ⟨before, since, rfl, enters⟩ := exists_enters ops h
      have reads := enters.string?_of_unwritten fun start bytes written =>
        unwritten start bytes (List.mem_append_right _ (List.mem_cons_of_mem _ written))
      rw [reads]
      exact fun same => ne (Option.some.inj same)
  · intro text absent
    have live := (orderly_apply (orderly_run ops) (.intern id text) id).interned_live text _
      (interned_intern_self hid text)
    have enters : Enters ops [] id text ((run ops).intern id text).1 := by
      refine ⟨hid, absent, rfl, lasts_nil.mpr ?_⟩
      rwa [run_concat]
    have reads := enters.string?_of_unwritten (by simp)
    rwa [run_concat] at reads

def scribbled : List Op :=
  [.create {}, .intern 0 "ab", .intern 0 "cd", .edit 0 (.writeChunk ⟨0, 0⟩ 0 "cd".toUTF8)]

theorem interned_node_reads_as_scribbled :
    ((run scribbled).collector 0).findInterned "ab" = some ⟨0, 0⟩ ∧
    ((run scribbled).collector 0).string? ⟨1, 0⟩ = some "cd" ∧
    ∃ before since, scribbled = before ++ .intern 0 "ab" :: since ∧
      ((run scribbled).collector 0).string? ⟨0, 0⟩ =
        String.fromUTF8? (patch 0 ⟨0, 0⟩ since "ab".toUTF8) := by
  have exist : 0 < (run scribbled).collectors.size := by decide +kernel
  have first : ((run scribbled).collector 0).findInterned "ab" = some ⟨0, 0⟩ := by decide +kernel
  have second : ((run scribbled).collector 0).findInterned "cd" = some ⟨1, 0⟩ := by decide +kernel
  obtain ⟨reads, -⟩ := interned_node_reads_as_written scribbled 0 exist
  obtain ⟨before, since, e, -, written, -⟩ := reads "ab" _ first
  obtain ⟨before', since', e', -, -, unwritten⟩ := reads "cd" _ second
  refine ⟨first, unwritten ?_, before, since, e, written⟩
  intro start bytes later
  have member : Op.edit 0 (.writeChunk ⟨1, 0⟩ start bytes) ∈ scribbled := by
    rw [e']
    exact List.mem_append_right _ (List.mem_cons_of_mem _ later)
  simp [scribbled] at member

def exchanged : List Op := scribbled ++ [.edit 0 (.writeChunk ⟨1, 0⟩ 0 "ab".toUTF8)]

/-- Each of two interned nodes, both live and in the table, reads as the text of the other. -/
theorem interned_nodes_read_as_each_other :
    ((run exchanged).collector 0).findInterned "ab" = some ⟨0, 0⟩ ∧
    ((run exchanged).collector 0).string? ⟨0, 0⟩ = some "cd" ∧
    ((run exchanged).collector 0).findInterned "cd" = some ⟨1, 0⟩ ∧
    ((run exchanged).collector 0).string? ⟨1, 0⟩ = some "ab" := by
  have reads {r : Ref} {text : String}
      (kind : ((run exchanged).collector 0).kind? r = some .string)
      (bytes : ((run exchanged).collector 0).bytes? r = some text.toUTF8) :
      ((run exchanged).collector 0).string? r = some text :=
    (Collector.string?_eq kind bytes).trans (fromUTF8?_toUTF8 text)
  refine ⟨by decide +kernel, reads ?_ ?_, by decide +kernel, reads ?_ ?_⟩
  · decide +kernel
  · decide +kernel
  · decide +kernel
  · decide +kernel

end World

end MarkSweep

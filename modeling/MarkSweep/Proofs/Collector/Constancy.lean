import MarkSweep.Proofs.Collector.Order

namespace MarkSweep

namespace Object

theorem isVector_setSlot (o : Object) (i : Nat) (value : Slot) :
    (o.setSlot i value).isVector = o.isVector := by
  cases o <;> rfl

theorem length_setSlot (o : Object) (i : Nat) (value : Slot) :
    (o.setSlot i value).length = o.length := by
  cases o with
  | chunk bytes => rfl
  | vector slots => exact Array.size_setIfInBounds

theorem bytes?_setSlot (o : Object) (i : Nat) (value : Slot) :
    (o.setSlot i value).bytes? = o.bytes? := by
  cases o <;> rfl

theorem restore_congr {β : Type} {f : Object → β} (same : ∀ o i value, f (o.setSlot i value) = f o)
    (o : Object) (r : Ref) (entries : List Entry) : f (o.restore r entries) = f o := by
  induction entries generalizing o with
  | nil => rfl
  | cons e entries ih =>
    rw [restore, List.foldl_cons, ← restore, ih]
    split
    · exact same o _ _
    · rfl

end Object

namespace Heap

theorem header?_writeSlot (h : Heap) (f : Field) (value : Slot) (r : Ref) :
    (h.writeSlot f value).header? r = h.header? r := by
  rw [header?, writeSlot, resident?_modify, header?]
  split
  · rw [Option.map_map]
    congr 1
    funext x
    rw [Function.comp_apply]
    split
    · rfl
    · rfl
  · rfl

theorem header?_restore (h : Heap) (entries : List Entry) (r : Ref) :
    (h.restore entries).header? r = h.header? r := by
  induction entries generalizing h with
  | nil => rfl
  | cons e entries ih => rw [restore_cons, ih, header?_writeSlot]

theorem header?_setObject (h : Heap) (r s : Ref) (object : Object) :
    (h.setObject r object).header? s = h.header? s := by
  rw [header?, setObject, resident?_modify, header?]
  split
  · rw [Option.map_map]
    rfl
  · rfl

theorem object?_setObject (h : Heap) (r s : Ref) (object : Object) :
    (h.setObject r object).object? s =
      if r = s then (h.object? s).map fun _ => object else h.object? s :=
  h.object?_modify r s _ _ fun _ => rfl

theorem kind?_modifyHeader (h : Heap) (r s : Ref) {f : Header → Header}
    (same : ∀ a, (f a).kind = a.kind) :
    ((h.modifyHeader r f).header? s).map Header.kind = (h.header? s).map Header.kind := by
  rw [header?, modifyHeader, resident?_modify, header?]
  split
  · simp only [Option.map_map, Function.comp_def, same]
  · rfl

end Heap

namespace Collector

variable {c c' c'' : Collector} {r : Ref}

structure Alike (c c' : Collector) (r : Ref) : Prop where
  kind : c'.kind? r = c.kind? r
  isVector : c'.isVector r = c.isVector r
  length : c'.length? r = c.length? r

namespace Alike

theorem refl (c : Collector) (r : Ref) : c.Alike c r := ⟨rfl, rfl, rfl⟩

theorem trans (first : c.Alike c' r) (second : c'.Alike c'' r) : c.Alike c'' r where
  kind := second.kind.trans first.kind
  isVector := second.isVector.trans first.isVector
  length := second.length.trans first.length

theorem of_objects (kind : c'.kind? r = c.kind? r)
    (object : c'.heap.object? r = c.heap.object? r) : c.Alike c' r := by
  refine ⟨kind, ?_, ?_⟩
  · rw [Collector.isVector, object, Collector.isVector]
  · rw [length?, object, length?]

end Alike

-- Neither the kind nor the payload of a node depends on its mark.
theorem kind?_eq_of_clearMark (c : Collector) (r : Ref) : c.kind? r =
    ((c.heap.resident? r).map Resident.clearMark).map fun x => x.header.kind := by
  rw [kind?, header?, Heap.header?, Option.map_map, Option.map_map]
  congr 1
  funext x
  exact x.header.agrees_clearMark.kind.symm

theorem object?_eq_of_clearMark (c : Collector) (r : Ref) : c.heap.object? r =
    ((c.heap.resident? r).map Resident.clearMark).map fun x => x.object := by
  rw [Heap.object?, Option.map_map]
  rfl

theorem resident?_collect_cases {p : Process} {trigger : Trigger} {pinned : Option Ref}
    (after : (c.collect p trigger pinned).2.1.isLive r) :
    (c.collect p trigger pinned).2.1.heap.resident? r = c.heap.resident? r ∨
      (c.collect p trigger pinned).2.1.heap.resident? r =
        (c.heap.resident? r).map Resident.clearMark := by
  rcases collect_cases c p trigger pinned with ⟨_, e⟩ | ⟨_, e⟩ | ⟨_, _, e⟩
  · rw [e]
    exact .inl rfl
  · rw [e]
    exact .inr (c.heap.resident?_clearMarks r)
  · rw [e] at after ⊢
    obtain ⟨y, hy⟩ := Option.isSome_iff_exists.mp after
    obtain ⟨-, x, hx, rfl⟩ := (resident?_collect e).mp hy
    rw [hy, hx]
    exact .inr rfl

theorem resident?_collect_of_isLive {p : Process} {trigger : Trigger} {pinned : Option Ref}
    (after : (c.collect p trigger pinned).2.1.isLive r) :
    ((c.collect p trigger pinned).2.1.heap.resident? r).map Resident.clearMark =
      (c.heap.resident? r).map Resident.clearMark := by
  rcases resident?_collect_cases after with kept | cleared
  · rw [kept]
  · rw [cleared, Option.map_map]
    congr 1
    funext x
    exact congrArg (Resident.mk · x.object) x.header.clearMark_clearMark

theorem Move.resident? (h : c.Move c') (hh : c.heap.Consistent) (before : c.isLive r)
    (after : c'.isLive r) : (c'.heap.resident? r).map Resident.clearMark =
      (c.heap.resident? r).map Resident.clearMark := by
  cases h with
  | rest heap => rw [heap]
  | collect p trigger pinned => exact resident?_collect_of_isLive after
  | allocate p header object heap =>
    obtain ⟨placed, placing, -, outcome⟩ := c.allocate_cases p header object
    have old : placed.heap.resident? r = c.heap.resident? r := by
      rw [placing]
      exact hh.resident?_allocate_of_isLive header object before
    rw [isLive, heap] at after
    rw [heap]
    rcases outcome with e | ⟨trigger, pinned, e⟩
    · rw [e, old]
    · rw [e] at after ⊢
      rw [resident?_collect_of_isLive after, old]

theorem Move.object? (h : c.Move c') (hh : c.heap.Consistent) (before : c.isLive r)
    (after : c'.isLive r) : c'.heap.object? r = c.heap.object? r := by
  rw [object?_eq_of_clearMark, h.resident? hh before after, ← object?_eq_of_clearMark]

theorem Move.alike (h : c.Move c') (hh : c.heap.Consistent) (before : c.isLive r)
    (after : c'.isLive r) : c.Alike c' r := by
  apply Alike.of_objects
  · rw [kind?_eq_of_clearMark, h.resident? hh before after, ← kind?_eq_of_clearMark]
  · exact h.object? hh before after

theorem Move.bytes? (h : c.Move c') (hh : c.heap.Consistent) (before : c.isLive r)
    (after : c'.isLive r) : c'.bytes? r = c.bytes? r := by
  rw [Collector.bytes?, h.object? hh before after, Collector.bytes?]

theorem alike_restore {entries : List Entry} (h : c'.heap = c.heap.restore entries) :
    c.Alike c' r := by
  constructor
  · rw [kind?, header?, h, Heap.header?_restore, kind?, header?]
  · rw [isVector, h, Heap.object?_restore, Option.any_map, isVector]
    congr 1
    funext o
    exact Object.restore_congr Object.isVector_setSlot o r entries
  · rw [length?, h, Heap.object?_restore, Option.map_map, length?]
    congr 1
    funext o
    exact Object.restore_congr Object.length_setSlot o r entries

theorem bytes?_restore {entries : List Entry} (h : c'.heap = c.heap.restore entries) :
    c'.bytes? r = c.bytes? r := by
  rw [bytes?, h, Heap.object?_restore, Option.bind_map, bytes?]
  congr 1
  funext o
  exact Object.restore_congr Object.bytes?_setSlot o r entries

namespace Edit

def patch (r : Ref) : Edit → ByteArray → ByteArray
  | writeChunk s start patch => fun bytes => if s = r then overwrite bytes start patch else bytes
  | _ => id

theorem heap_cases (c : Collector) (e : Edit) :
    (∃ r start patch, e = writeChunk r start patch) ∨ (∀ r, e.patch r = id) ∧
      ((∃ entries, (e.apply c).heap = c.heap.restore entries) ∨
        ∃ r f, (∀ a, Header.kind (f a) = a.kind) ∧ (e.apply c).heap = c.heap.modifyHeader r f) := by
  have restored {d : Collector} (entries : List Entry) (h : d.heap = c.heap.restore entries) :
      (∃ entries, d.heap = c.heap.restore entries) ∨
        ∃ r f, (∀ a, Header.kind (f a) = a.kind) ∧ d.heap = c.heap.modifyHeader r f :=
    .inl ⟨entries, h⟩
  have modified (r : Ref) (f : Header → Header) (same : ∀ a, (f a).kind = a.kind) :
      (∃ entries, (c.modifyHeader r f).2.heap = c.heap.restore entries) ∨
        ∃ s g, (∀ a, Header.kind (g a) = a.kind) ∧
          (c.modifyHeader r f).2.heap = c.heap.modifyHeader s g := by
    rcases modifyHeader_cases c r f with e | e
    · exact restored [] (congrArg Collector.heap e)
    · exact .inr ⟨r, f, same, congrArg Collector.heap e⟩
  cases e with
  | writeChunk r start patch => exact .inl ⟨r, start, patch, rfl⟩
  | lock => exact .inr ⟨fun _ => rfl, restored [] (lock_apply c).1⟩
  | unlock => exact .inr ⟨fun _ => rfl, restored [] (unlock_apply c).1⟩
  | setSlot f value =>
    refine .inr ⟨fun _ => rfl, ?_⟩
    rcases setSlot_cases c f value with e | e
    · exact restored [] (congrArg Collector.heap e)
    · exact restored [⟨f, value⟩] (congrArg Collector.heap e)
  | setSlotTrailed f value =>
    refine .inr ⟨fun _ => rfl, ?_⟩
    rcases setSlotTrailed_cases c f value with e | ⟨prior, -, e⟩
    · exact restored [] (congrArg Collector.heap e)
    · exact restored [⟨f, value⟩] (congrArg Collector.heap e)
  | setFlag r f value =>
    exact .inr ⟨fun _ => rfl, modified r (·.setFlag f value) fun a => a.kind_setFlag f value⟩
  | setSecondary r sec =>
    exact .inr ⟨fun _ => rfl, modified r (·.withSecondary sec) fun a => a.kind_withSecondary sec⟩
  | checkpoint => exact .inr ⟨fun _ => rfl, restored [] rfl⟩
  | record f prior => exact .inr ⟨fun _ => rfl, restored [] rfl⟩
  | rollback =>
    refine .inr ⟨fun _ => rfl, ?_⟩
    rcases rollback_cases c with e | ⟨entries, trail, -, e⟩
    · exact restored [] (congrArg Collector.heap e)
    · exact restored entries (congrArg Collector.heap e)
  | rollbackTo m =>
    refine .inr ⟨fun _ => rfl, ?_⟩
    rcases rollbackTo_cases c m with e | ⟨entries, trail, -, e⟩
    · exact restored [] (congrArg Collector.heap e)
    · exact restored entries (congrArg Collector.heap e)
  | commit =>
    refine .inr ⟨fun _ => rfl, ?_⟩
    rcases commit_cases c with e | ⟨trail, -, e⟩
    · exact restored [] (congrArg Collector.heap e)
    · rw [e]
      exact restored [] rfl

theorem alike_writeChunk (c : Collector) (r s : Ref) (start : Nat) (patch : ByteArray) :
    c.Alike ((writeChunk r start patch).apply c) s := by
  rcases writeChunk_cases c r start patch with e | ⟨bytes, ho, e⟩
  · rw [e]
    exact .refl c s
  · by_cases same : r = s
    · subst same
      have written : (c.heap.setObject r (.chunk (overwrite bytes start patch))).object? r =
          some (.chunk (overwrite bytes start patch)) := by
        rw [Heap.object?_setObject, if_pos rfl, ho, Option.map_some]
      rw [e]
      constructor
      · exact congrArg (Option.map Header.kind) (c.heap.header?_setObject r r _)
      · rw [isVector, written, isVector, ho]
        rfl
      · rw [length?, written, length?, ho]
        exact congrArg some (size_overwrite bytes start patch)
    · rw [e]
      apply Alike.of_objects
      · exact congrArg (Option.map Header.kind) (c.heap.header?_setObject r s _)
      · exact (c.heap.object?_setObject r s _).trans (if_neg same)

theorem bytes?_writeChunk (c : Collector) (r s : Ref) (start : Nat) (patch : ByteArray) :
    ((writeChunk r start patch).apply c).bytes? s =
      (c.bytes? s).map ((writeChunk r start patch).patch s) := by
  have outcome : (writeChunk r start patch).apply c =
      (c.writeChunk r start patch).2 := rfl
  rw [outcome, Collector.writeChunk, alterChunk, Collector.bytes?, Collector.bytes?, Edit.patch]
  by_cases same : r = s
  · subst same
    cases ho : c.heap.object? r with
    | none => simp [ho]
    | some o =>
      cases o with
      | chunk bytes =>
        simp [Heap.object?_setObject, ho, Object.bytes?]
      | vector slots => simp [ho, Object.bytes?]
  · have unwritten : (fun bytes => if r = s then overwrite bytes start patch else bytes) = id := by
      funext bytes
      exact if_neg same
    rw [unwritten, Option.map_id, id]
    split
    · exact congrArg (Option.bind · Object.bytes?)
        ((c.heap.object?_setObject r s _).trans (if_neg same))
    · rfl
    · rfl

theorem alike_apply (c : Collector) (e : Edit) (r : Ref) : c.Alike (e.apply c) r := by
  rcases heap_cases c e with ⟨s, start, patch, rfl⟩ | ⟨-, ⟨entries, h⟩ | ⟨s, f, same, h⟩⟩
  · exact alike_writeChunk c s r start patch
  · exact alike_restore h
  · apply Alike.of_objects
    · rw [kind?, header?, h, c.heap.kind?_modifyHeader s r same, kind?, header?]
    · rw [h, Heap.object?_modifyHeader]

theorem bytes?_apply (c : Collector) (e : Edit) (r : Ref) :
    (e.apply c).bytes? r = (c.bytes? r).map (e.patch r) := by
  rcases heap_cases c e with ⟨s, start, patch, rfl⟩ | ⟨unwritten, ⟨entries, h⟩ | ⟨s, f, -, h⟩⟩
  · exact bytes?_writeChunk c s r start patch
  · rw [unwritten, Option.map_id, id, bytes?_restore h]
  · rw [unwritten, Option.map_id, id, Collector.bytes?, h, Heap.object?_modifyHeader,
      Collector.bytes?]

end Edit

end Collector

end MarkSweep

import MarkSweep.Proofs.Collector.Frame

namespace MarkSweep

theorem Heap.Reach.transfer {h h' : Heap} {roots : Ref → Prop} {r : Ref}
    (vectors : ∀ r slots, h.object? r = some (.vector slots) → h'.isLive r →
      h'.object? r = some (.vector slots))
    (edges : ∀ r s, h'.isLive r → s ∈ h.edges r → h.isLive s → h'.isLive s)
    (kept : ∀ r, roots r → h.isLive r → h'.isLive r) (hr : h.Reach roots r) :
    h'.Reach roots r := by
  induction hr with
  | root hr hl => exact .root hr (kept _ hr hl)
  | edge _ he hl ih =>
    obtain ⟨slots, ho⟩ := Heap.exists_of_mem_edges he
    have same := vectors _ slots ho ih.isLive
    refine ih.edge ?_ (edges _ _ ih.isLive he hl)
    rwa [Heap.mem_edges same, ← Heap.mem_edges ho]

theorem Heap.Consistent.reach_allocate_chunk {h : Heap} (hh : h.Consistent) (header : Header)
    (bytes : ByteArray) {roots : Ref → Prop} {r : Ref} :
    (h.allocate header (.chunk bytes)).2.Reach
        (fun s => roots s ∨ s = (h.allocate header (.chunk bytes)).1) r ↔
      r = (h.allocate header (.chunk bytes)).1 ∨ h.Reach roots r := by
  have live := hh.isLive_allocate header (.chunk bytes)
  have store := hh.resident?_allocate header (.chunk bytes)
  have dead := hh.not_isLive_allocate header (.chunk bytes)
  generalize (h.allocate header (.chunk bytes)).1 = node at *
  generalize (h.allocate header (.chunk bytes)).2 = h' at *
  -- The chunk leads nowhere. A vector may hold its reference, but a path that comes to it ends.
  have leaf : h'.edges node = [] := by simp [edges, Heap.object?, store, Object.edges]
  have edges_eq {s : Ref} (hs : s ≠ node) : h'.edges s = h.edges s := by
    simp [edges, Heap.object?, store, Function.update_of_ne hs]
  constructor
  · intro hr
    induction hr with
    | root hr hl =>
      rcases hr with hr | rfl
      · exact ((live _).mp hl).imp_right (.root hr)
      · exact .inl rfl
    | @edge s t hs he hl ih =>
      by_cases e : s = node
      · rw [e, leaf] at he
        cases he
      · rw [edges_eq e] at he
        exact ((live t).mp hl).imp_right ((ih.resolve_left e).edge he)
  · rintro (rfl | hr)
    · exact .root (.inr rfl) ((live r).mpr (.inl rfl))
    · induction hr with
      | root hr hl => exact .root (.inl hr) ((live _).mpr (.inr hl))
      | @edge s t hs he hl ih =>
        have old : s ≠ node := by
          rintro rfl
          exact dead hs.isLive
        exact ih.edge (by rwa [edges_eq old]) ((live t).mpr (.inr hl))

namespace Collector

variable {c c' : Collector}

theorem Spares.reach (h : c.Spares c') {roots : Ref → Prop} {r : Ref}
    (kept : ∀ r, roots r → c.isLive r → c'.isLive r) (hr : c.heap.Reach roots r) :
    c'.heap.Reach roots r :=
  hr.transfer h.vectors h.edges kept

namespace Edit

def WritesSlots : Edit → Prop
  | setSlot _ _ | setSlotTrailed _ _ | rollback | rollbackTo _ => True
  | _ => False

theorem object?_apply {e : Edit} (reading : ¬e.WritesSlots) {r : Ref} {slots : Array Slot}
    (ho : c.heap.object? r = some (.vector slots)) :
    (e.apply c).heap.object? r = some (.vector slots) := by
  have spared (c' : Collector) (same : ∀ r, c'.isLive r = c.isLive r) (h : c.Spares c') :
      c'.heap.object? r = some (.vector slots) :=
    h.vectors r slots ho ((same r).trans (Heap.isLive_of_object? ho))
  have same (r : Ref) : (e.apply c).isLive r = c.isLive r := by
    obtain ⟨_, _, _, eq, live⟩ := apply_eq c e
    rw [eq]
    exact live r
  cases e with
  | lock => rwa [(lock_apply c).1]
  | unlock => rwa [(unlock_apply c).1]
  | writeChunk s start patch => exact spared _ same (spares_writeChunk c s start patch)
  | setFlag s f value => exact spared _ same (spares_modifyHeader c s _)
  | setSecondary s sec => exact spared _ same (spares_modifyHeader c s _)
  | checkpoint => exact ho
  | record f prior => exact ho
  | commit =>
    rcases commit_cases c with e | ⟨trail, -, e⟩
    · rwa [e]
    · rwa [e]
  | _ => exact absurd trivial reading

theorem reach_apply {e : Edit} (reading : ¬e.WritesSlots) {roots : Ref → Prop} {r : Ref}
    (hr : c.heap.Reach roots r) : (e.apply c).heap.Reach roots r := by
  obtain ⟨_, _, _, eq, live⟩ := apply_eq c e
  have live' (r : Ref) (hl : c.heap.isLive r) : (e.apply c).heap.isLive r := by
    rw [eq]
    exact (live r).trans hl
  exact hr.transfer (fun _ _ ho _ => object?_apply reading ho) (fun _ s _ _ hl => live' s hl)
    (fun r _ hl => live' r hl)

end Edit

theorem isRoot_place_some {p : Process} {header : Header} {object : Object} {node r : Ref} :
    (c.place header object).IsRoot p (some node) r ↔ c.IsRoot p none r ∨ r = node := by
  simp only [IsRoot, place, reduceCtorEq, or_false, Option.some.injEq, or_assoc, eq_comm]

theorem isLive_collect_place_iff (hc : c.Orderly) {p p' : Process} {trigger : Trigger}
    {header : Header} {bytes : ByteArray} {m : Metrics}
    (h : (c.place header (.chunk bytes)).collect p trigger
      (some (c.heap.allocate header (.chunk bytes)).1) = (.ok m, c', p')) {r : Ref}
    (live : c.isLive r) : c'.isLive r ↔ c.heap.Reach (c.IsRoot p none) r := by
  have old : r ≠ (c.heap.allocate header (.chunk bytes)).1 := by
    rintro rfl
    exact hc.heap.not_isLive_allocate header (.chunk bytes) live
  have roots : (c.place header (.chunk bytes)).IsRoot p
      (some (c.heap.allocate header (.chunk bytes)).1) =
        fun s => c.IsRoot p none s ∨ s = (c.heap.allocate header (.chunk bytes)).1 :=
    funext fun s => propext isRoot_place_some
  rw [isLive_collect h, roots]
  exact (hc.heap.reach_allocate_chunk header bytes).trans (or_iff_right old)

end Collector

end MarkSweep

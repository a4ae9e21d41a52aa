import MarkSweep.Registry
import Mathlib.Data.Set.Card
import Mathlib.Logic.Function.Basic

/-!
Registries as functions from keys to entries. What handles rely on is the law of key tables, which
registries obey. The entries can be listed with their keys, each key once.
-/

namespace MarkSweep

namespace Registry

variable {α : Type} {g : Registry α}

/-- The rows to be used again are empty, and none is listed twice. -/
structure Consistent (g : Registry α) : Prop where
  empty : ∀ i ∈ g.vacant, ∃ version, g.rows[i]? = some ⟨version, none⟩
  nodup : g.vacant.Nodup

theorem consistent_empty : ({} : Registry α).Consistent := ⟨by simp, List.nodup_nil⟩

/-- The law of key tables. A new key is one that nothing stands under, and what is done under one
key is no matter to the others. A key may come back once its entry is gone. -/
structure Law (Sound : Registry α → Prop) : Prop where
  empty : Sound {}
  insert {g : Registry α} : Sound g → ∀ a, Sound (g.insert a).2
  set {g : Registry α} : Sound g → ∀ k a, Sound (g.set k a)
  modify {g : Registry α} : Sound g → ∀ k f, Sound (g.modify k f)
  erase {g : Registry α} : Sound g → ∀ k, Sound (g.erase k)
  mapValues {g : Registry α} : Sound g → ∀ f, Sound (g.mapValues f)
  fresh {g : Registry α} : Sound g → ∀ a, g.get? (g.insert a).1 = none
  get?_empty (k : Key) : get? ({} : Registry α) k = none
  get?_insert {g : Registry α} : Sound g → ∀ a,
    (g.insert a).2.get? = Function.update g.get? (g.insert a).1 (some a)
  get?_set (g : Registry α) (k : Key) (a : α) :
    (g.set k a).get? = Function.update g.get? k ((g.get? k).map fun _ => a)
  get?_modify (g : Registry α) (k : Key) (f : α → α) :
    (g.modify k f).get? = Function.update g.get? k ((g.get? k).map f)
  get?_erase (g : Registry α) (k : Key) : (g.erase k).get? = Function.update g.get? k none
  get?_mapValues (g : Registry α) (f : α → α) (k : Key) :
    (g.mapValues f).get? k = (g.get? k).map f

namespace Law

variable {Sound : Registry α → Prop} (law : Law Sound)

include law

theorem get?_insert_of_eq_some (sound : Sound g) (a : α) {l : Key} {b : α}
    (hl : g.get? l = some b) : (g.insert a).2.get? l = some b := by
  have fresh : l ≠ (g.insert a).1 := by
    rintro rfl
    rw [law.fresh sound] at hl
    cases hl
  rw [law.get?_insert sound, Function.update_of_ne fresh, hl]

theorem get?_insert_self (sound : Sound g) (a : α) :
    (g.insert a).2.get? (g.insert a).1 = some a := by
  rw [law.get?_insert sound, Function.update_self]

theorem get?_erase_of_ne (g : Registry α) {k l : Key} (ne : k ≠ l) :
    (g.erase k).get? l = g.get? l := by
  rw [law.get?_erase, Function.update_of_ne ne.symm]

theorem get?_modify_self (g : Registry α) (k : Key) (f : α → α) :
    (g.modify k f).get? k = (g.get? k).map f := by
  rw [law.get?_modify, Function.update_self]

theorem get?_modify_of_ne (g : Registry α) {k l : Key} (ne : k ≠ l) (f : α → α) :
    (g.modify k f).get? l = g.get? l := by
  rw [law.get?_modify, Function.update_of_ne ne.symm]

theorem isSome_get?_modify (g : Registry α) (k l : Key) (f : α → α) :
    ((g.modify k f).get? l).isSome = (g.get? l).isSome := by
  by_cases e : k = l
  · rw [e, law.get?_modify_self, Option.isSome_map]
  · rw [law.get?_modify_of_ne g e]

end Law

theorem get?_eq_some_iff {k : Key} {a : α} :
    g.get? k = some a ↔ g.rows[k.row]? = some ⟨k.version, some a⟩ := by
  rw [get?]
  cases hr : g.rows[k.row]? with
  | none => simp
  | some row =>
    obtain ⟨version, value⟩ := row
    by_cases hv : version = k.version <;> simp [hv]

theorem get?_erase (g : Registry α) (k l : Key) :
    (g.erase k).get? l = if k = l then none else g.get? l := by
  rw [erase]
  split
  case isFalse absent =>
    split
    case isTrue e =>
      subst e
      simpa using absent
    case isFalse => rfl
  case isTrue present =>
    obtain ⟨a, ha⟩ := Option.isSome_iff_exists.mp present
    rw [get?_eq_some_iff] at ha
    simp only [get?, Array.getElem?_modify]
    by_cases hr : k.row = l.row
    · rw [hr] at ha
      by_cases hv : k.version = l.version
      · have e : k = l := by
          cases k
          cases l
          simp_all
        simp [e, ha]
      · have ne : k ≠ l := fun e => hv (congrArg Key.version e)
        simp [ne, hr, ha, hv]
    · have ne : k ≠ l := fun e => hr (congrArg Key.row e)
      simp [ne, hr]

theorem get?_modify (g : Registry α) (k l : Key) (f : α → α) :
    (g.modify k f).get? l = if k = l then (g.get? l).map f else g.get? l := by
  by_cases e : k = l
  · subst e
    cases hk : g.get? k <;> simp [modify, hk, get?_set]
  · cases hk : g.get? k <;> simp [modify, hk, get?_set, e]

theorem get?_mapValues (g : Registry α) (f : α → α) (k : Key) :
    (g.mapValues f).get? k = (g.get? k).map f := by
  rw [mapValues, get?, get?, Array.getElem?_map]
  cases g.rows[k.row]? with
  | none => rfl
  | some row =>
    simp only [Option.map_some]
    split
    · rfl
    · rfl

def entries (g : Registry α) : List (Key × α) :=
  g.rows.toList.zipIdx.filterMap fun (row, i) => row.value.map fun a => (⟨i, row.version⟩, a)

theorem mem_entries {k : Key} {a : α} : (k, a) ∈ g.entries ↔ g.get? k = some a := by
  simp only [entries, List.mem_filterMap, Prod.exists, List.mem_zipIdx_iff_getElem?,
    Option.map_eq_some_iff, Prod.mk.injEq, Array.getElem?_toList, get?_eq_some_iff]
  constructor
  · rintro ⟨⟨version, value⟩, i, hi, b, rfl, rfl, rfl⟩
    exact hi
  · intro h
    exact ⟨_, k.row, h, a, rfl, rfl, rfl⟩

theorem mem_keys {k : Key} : k ∈ g.entries.map Prod.fst ↔ (g.get? k).isSome := by
  simp only [List.mem_map, Prod.exists, mem_entries, exists_and_right, exists_eq_right,
    Option.isSome_iff_exists]

theorem map_snd_entries (g : Registry α) : g.entries.map Prod.snd = g.values := by
  have rows : g.rows.toList = g.rows.toList.zipIdx.map Prod.fst := by simp
  rw [values, rows, List.filterMap_map, entries, List.map_filterMap]
  congr 1
  funext ⟨row, i⟩
  simp

theorem nodup_keys (g : Registry α) : (g.entries.map Prod.fst).Nodup := by
  have apart : g.rows.toList.zipIdx.Pairwise fun p q => p.2 ≠ q.2 := by
    apply List.pairwise_map.mp
    rw [List.zipIdx_map_snd]
    exact List.nodup_range'
  rw [entries, List.map_filterMap]
  refine List.Pairwise.filterMap _ ?_ apart
  rintro ⟨row, i⟩ ⟨row', j⟩ ne k hk l hl rfl
  simp only [Option.map_map, Option.map_eq_some_iff, Function.comp_apply] at hk hl
  obtain ⟨_, -, rfl⟩ := hk
  obtain ⟨_, -, e⟩ := hl
  exact ne (congrArg Key.row e).symm

theorem ncard_get? (g : Registry α) (f : α → Bool) :
    {k | ∃ a, g.get? k = some a ∧ f a}.ncard = g.values.countP f := by
  classical
  have all : {k | ∃ a, g.get? k = some a ∧ f a} =
      ((g.entries.filter (f ·.2)).map Prod.fst).toFinset := by
    ext k
    simp [mem_entries]
  have nodup : ((g.entries.filter (f ·.2)).map Prod.fst).Nodup :=
    g.nodup_keys.sublist (List.filter_sublist.map Prod.fst)
  rw [all, Set.ncard_coe_finset, List.toFinset_card_of_nodup nodup, List.length_map,
    ← List.countP_eq_length_filter, ← map_snd_entries, List.countP_map]
  rfl

namespace Consistent

theorem not_mem_vacant (hg : g.Consistent) {k : Key} (present : (g.get? k).isSome) :
    k.row ∉ g.vacant := by
  intro listed
  obtain ⟨a, ha⟩ := Option.isSome_iff_exists.mp present
  obtain ⟨version, hr⟩ := hg.empty k.row listed
  rw [get?_eq_some_iff, hr] at ha
  cases ha

theorem modifyRow (hg : g.Consistent) {i : Nat} (hi : i ∉ g.vacant) (f : Row α → Row α) :
    ({ g with rows := g.rows.modify i f } : Registry α).Consistent where
  empty j hj := by
    have ne : i ≠ j := by
      rintro rfl
      exact hi hj
    obtain ⟨version, hr⟩ := hg.empty j hj
    exact ⟨version, by simp [Array.getElem?_modify, ne, hr]⟩
  nodup := hg.nodup

theorem set (hg : g.Consistent) (k : Key) (a : α) : (g.set k a).Consistent := by
  rw [Registry.set]
  split
  case isTrue present => exact hg.modifyRow (hg.not_mem_vacant present) _
  case isFalse => exact hg

theorem modify (hg : g.Consistent) (k : Key) (f : α → α) : (g.modify k f).Consistent := by
  rw [Registry.modify]
  split
  · exact hg.set k _
  · exact hg

theorem erase (hg : g.Consistent) (k : Key) : (g.erase k).Consistent := by
  rw [Registry.erase]
  split
  case isFalse => exact hg
  case isTrue present =>
    have unlisted := hg.not_mem_vacant present
    obtain ⟨a, ha⟩ := Option.isSome_iff_exists.mp present
    rw [get?_eq_some_iff] at ha
    refine ⟨?_, List.nodup_cons.mpr ⟨unlisted, hg.nodup⟩⟩
    intro i hi
    rcases List.mem_cons.mp hi with rfl | hi
    · refine ⟨k.version, ?_⟩
      rw [Array.getElem?_modify, if_pos rfl, ha]
      rfl
    · exact (hg.modifyRow unlisted _).empty i hi

theorem mapValues (hg : g.Consistent) (f : α → α) : (g.mapValues f).Consistent where
  empty i hi := by
    obtain ⟨version, hr⟩ := hg.empty i hi
    exact ⟨version, by simp [Registry.mapValues, hr]⟩
  nodup := hg.nodup

theorem insert (hg : g.Consistent) (a : α) : (g.insert a).2.Consistent := by
  have empty := hg.empty
  have nodup := hg.nodup
  rw [Registry.insert]
  split
  case h_1 i rest hv =>
    rw [hv] at empty nodup
    obtain ⟨unlisted, nodup⟩ := List.nodup_cons.mp nodup
    have shorter : ({ g with vacant := rest } : Registry α).Consistent :=
      ⟨fun j hj => empty j (List.mem_cons_of_mem i hj), nodup⟩
    exact shorter.modifyRow unlisted _
  case h_2 hv =>
    refine ⟨fun j hj => ?_, nodup⟩
    obtain ⟨version, hr⟩ := empty j hj
    refine ⟨version, ?_⟩
    obtain ⟨bound, hr⟩ := Array.getElem?_eq_some_iff.mp hr
    rw [Array.getElem?_push_lt bound, hr]

theorem fresh (hg : g.Consistent) (a : α) : g.get? (g.insert a).1 = none := by
  have empty := hg.empty
  rw [Registry.insert]
  cases hv : g.vacant with
  | nil => simp [get?]
  | cons i rest =>
    obtain ⟨version, hr⟩ := empty i (by simp [hv])
    simp [get?, hr]

theorem get?_insert (hg : g.Consistent) (a : α) (l : Key) :
    (g.insert a).2.get? l = if (g.insert a).1 = l then some a else g.get? l := by
  obtain ⟨i, v⟩ := l
  have empty := hg.empty
  rw [Registry.insert]
  cases hv : g.vacant with
  | nil =>
    simp only [get?, Array.getElem?_push, Key.mk.injEq, @eq_comm _ i]
    by_cases hi : g.rows.size = i
    · subst hi
      simp
    · simp [hi]
  | cons j rest =>
    obtain ⟨version, hr⟩ := empty j (by simp [hv])
    simp only [get?, Array.getElem?_modify, Key.mk.injEq]
    by_cases hj : j = i
    · subst hj
      simp [hr]
    · simp [hj]

end Consistent

theorem eq_update {f f' x : Key → Option α} {k : Key}
    (h : ∀ l, f' l = if k = l then x l else f l) : f' = Function.update f k (x k) := by
  funext l
  rw [h, Function.update_apply]
  split
  case isTrue e => rw [e, if_pos rfl]
  case isFalse ne => rw [if_neg (Ne.symm ne)]

theorem law : Law (@Consistent α) where
  empty := consistent_empty
  insert hg a := hg.insert a
  set hg k a := hg.set k a
  modify hg k f := hg.modify k f
  erase hg k := hg.erase k
  mapValues hg f := hg.mapValues f
  fresh hg a := hg.fresh a
  get?_empty k := by simp [get?]
  get?_insert hg a := eq_update (x := fun _ => some a) (hg.get?_insert a)
  get?_set g k a := eq_update (g.get?_set k · a)
  get?_modify g k f := eq_update (g.get?_modify k · f)
  get?_erase g k := eq_update (x := fun _ => none) (g.get?_erase k)
  get?_mapValues := get?_mapValues

end Registry

end MarkSweep

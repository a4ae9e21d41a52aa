import MarkSweep.Proofs.Collector.Sparing
import MarkSweep.Proofs.Registry

namespace MarkSweep

namespace NodeMap

theorem getElem?_prune (map : NodeMap) (heap : Heap) (node : Ref) :
    (map.prune heap)[node]? = if heap.isLive node then map[node]? else none := by
  rw [prune, Std.TreeMap.getElem?_filter']
  cases map[node]? <;> cases heap.isLive node <;> rfl

theorem size_sub_size_prune (map : NodeMap) (heap : Heap) :
    map.size - (map.prune heap).size = (map.keys.filter fun node => !heap.isLive node).length := by
  have kept : (map.prune heap).size = map.keys.countP heap.isLive := by
    rw [← Std.TreeMap.length_keys, prune, Std.TreeMap.keys_filter_key, List.countP_eq_length_filter]
  rw [kept, ← Std.TreeMap.length_keys, List.length_eq_countP_add_countP heap.isLive,
    Nat.add_sub_cancel_left, List.countP_eq_length_filter]
  simp

end NodeMap

namespace Collector

variable {c c' : Collector} {p p' : Process} {trigger : Trigger} {pinned : Option Ref} {m : Metrics}

theorem weakMaps_collect (h : c.collect p trigger pinned = (.ok m, c', p')) :
    c'.weakMaps = c.weakMaps.mapValues (·.prune c'.heap) := by
  rw [(collect_eq_ok h).2]
  rfl

def lost (c : Collector) (heap : Heap) : List (Key × Ref) :=
  c.weakMaps.entries.flatMap fun e => (e.2.keys.filter fun node => !heap.isLive node).map (e.1, ·)

theorem mem_lost {heap : Heap} {key : Key} {node : Ref} : (key, node) ∈ c.lost heap ↔
    ∃ map, c.weakMaps.get? key = some map ∧ node ∈ map ∧ ¬heap.isLive node := by
  simp [lost, Registry.mem_entries]

theorem nodup_lost (c : Collector) (heap : Heap) : (c.lost heap).Nodup := by
  refine List.nodup_flatMap.mpr ⟨fun e _ => ?_, ?_⟩
  · exact (Std.TreeMap.nodup_keys.filter _).map (Prod.mk_right_injective e.1)
  · refine (List.pairwise_map.mp c.weakMaps.nodup_keys).imp fun ne => ?_
    rintro ⟨key, node⟩ left right
    obtain ⟨_, -, e⟩ := List.mem_map.mp left
    obtain ⟨_, -, e'⟩ := List.mem_map.mp right
    exact ne ((congrArg Prod.fst e).trans (congrArg Prod.fst e').symm)

/-- From the first collector to the second each weak map loses the entries whose keys are gone, and
`pruned` counts them. -/
structure Prunes (c c' : Collector) (pruned : Nat) : Prop where
  isSome : ∀ key, (c'.weakMaps.get? key).isSome = (c.weakMaps.get? key).isSome
  getElem? : ∀ key before after, c.weakMaps.get? key = some before →
    c'.weakMaps.get? key = some after → ∀ node value : Ref,
      after[node]? = some value ↔ before[node]? = some value ∧ c'.isLive node
  pruned : pruned = {e : Key × Ref | ∃ map, c.weakMaps.get? e.1 = some map ∧ e.2 ∈ map ∧
    ¬c'.isLive e.2}.ncard

theorem prunes_collect (h : c.collect p trigger pinned = (.ok m, c', p')) :
    c.Prunes c' m.weakPruned where
  isSome key := by rw [weakMaps_collect h, Registry.law.get?_mapValues, Option.isSome_map]
  getElem? key before after hb ha node value := by
    rw [weakMaps_collect h, Registry.law.get?_mapValues, hb] at ha
    cases ha
    rw [NodeMap.getElem?_prune, isLive]
    cases c'.heap.isLive node <;> simp
  pruned := by
    have all : {e : Key × Ref | ∃ map, c.weakMaps.get? e.1 = some map ∧ e.2 ∈ map ∧
        ¬c'.isLive e.2} = (c.lost c'.heap).toFinset := by
      ext ⟨key, node⟩
      rw [List.coe_toFinset]
      exact mem_lost.symm
    have counted : m.weakPruned =
        (c.weakMaps.values.map fun map => map.size - (map.prune c'.heap).size).sum := by
      rw [List.sum_eq_foldl, List.foldl_map, metrics_collect h, (collect_eq_ok h).2]
      rfl
    rw [all, Set.ncard_coe_finset, List.toFinset_card_of_nodup (nodup_lost c c'.heap), counted,
      lost, List.length_flatMap, ← c.weakMaps.map_snd_entries, List.map_map]
    simp only [List.length_map, ← NodeMap.size_sub_size_prune]
    rfl

theorem heap_collect_weakMaps (h : c.collect p trigger pinned = (.ok m, c', p'))
    (weakMaps : Registry NodeMap) :
    ∃ m' c'' p'', ({ c with weakMaps } : Collector).collect p trigger pinned = (.ok m', c'', p'') ∧
      c''.heap = c'.heap := by
  have same : ({ c with weakMaps } : Collector).markPhase p.markers pinned =
      c.markPhase p.markers pinned := rfl
  rw [collect] at h ⊢
  split at h
  case isTrue => cases h
  case isFalse idle =>
    rw [if_neg idle, same]
    dsimp only at h ⊢
    split at h
    case isTrue => cases h
    case isFalse free =>
      rw [if_neg free]
      cases h
      exact ⟨_, _, _, rfl, rfl⟩

end Collector

end MarkSweep

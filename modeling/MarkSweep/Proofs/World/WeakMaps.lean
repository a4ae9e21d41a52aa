import MarkSweep.Proofs.Collector.Pruning
import MarkSweep.Proofs.Collector.Posting
import MarkSweep.Proofs.World.Attempt

namespace MarkSweep

/-- The weak maps that exist, each as the function that it should be. -/
abbrev Atlas := WeakMap → Option (Ref → Option Ref)

def Atlas.prune (s : Atlas) : Option Attempt → Atlas
  | none => s
  | some t => fun m =>
    if t.owner = some m.collector ∧ t.metrics?.isSome then
      (s m).map fun f node => if t.after.isLive node then f node else none
    else s m

theorem Attempt.weakMaps_after (t : Attempt) : t.after.weakMaps =
    if t.metrics?.isSome then t.collector.weakMaps.mapValues (·.prune t.after.heap)
    else t.collector.weakMaps := by
  have ends := t.ends
  rw [metrics?, after]
  generalize t.run = r at ends ⊢
  cases ends with
  | locked | busy | abandoned => rfl
  | completed _ _ _ _ swept =>
    cases swept
    rfl

namespace World

def atlas (w : World) : Atlas := fun m =>
  ((w.collector m.collector).weakMaps.get? m.key).map fun map node => map[node]?

def Act.chart (w : World) (s : Atlas) : Act → Atlas
  | op (.map id) =>
    if id < w.collectors.size then Function.update s (WeakMap.create w id).1 (some fun _ => none)
    else s
  | op (.mapInsert m node value) =>
    Function.update s m ((s m).map fun f => Function.update f node (some value))
  | op (.mapErase m node) => Function.update s m ((s m).map fun f => Function.update f node none)
  | op (.mapClear m) => Function.update s m ((s m).map fun _ _ => none)
  | op (.mapDrop m) => Function.update s m none
  | a => s.prune (a.attempt? w)

def survey (acts : List Act) : World × Atlas :=
  acts.foldl (fun p a => (a.apply p.1, a.chart p.1 p.2)) ({}, fun _ => none)

def charted (acts : List Act) : Atlas := (survey acts).2

theorem survey_fst (acts : List Act) : (survey acts).1 = play acts := by
  induction acts using List.reverseRecOn with
  | nil => rfl
  | append_singleton acts a ih => rw [play_concat, ← ih, survey, List.foldl_concat, survey]

theorem charted_concat (acts : List Act) (a : Act) :
    charted (acts ++ [a]) = a.chart (play acts) (charted acts) := by
  rw [charted, survey, List.foldl_concat, ← survey, survey_fst, charted]

variable {w w' : World} {id : CollectorId}

theorem atlas_congr (same : ∀ id, (w'.collector id).weakMaps = (w.collector id).weakMaps) :
    w'.atlas = w.atlas := by
  funext m
  rw [atlas, same, atlas]

theorem atlas_eq_none {m : WeakMap} (outside : w.collectors.size ≤ m.collector) :
    w.atlas m = none := by
  rw [atlas, collector_of_size_le outside]
  rfl

theorem atlas_setCollector (inside : id < w.collectors.size) {c : Collector} {key : Key}
    {x : Option NodeMap}
    (h : c.weakMaps.get? = Function.update (w.collector id).weakMaps.get? key x) :
    (w.setCollector id c).atlas =
      Function.update w.atlas ⟨id, key⟩ (x.map fun map node => map[node]?) := by
  funext ⟨other, key'⟩
  rw [atlas, collector_setCollector inside, Function.update_apply]
  by_cases e : id = other
  · subst e
    rw [if_pos rfl, h, Function.update_apply]
    by_cases ek : key' = key
    · subst ek
      rw [if_pos rfl, if_pos rfl]
    · rw [if_neg ek, if_neg fun same => ek (WeakMap.mk.inj same).2]
      rfl
  · rw [if_neg e, if_neg fun same => e (WeakMap.mk.inj same).1.symm]
    rfl

theorem atlas_modify (m : WeakMap) (w : World) {f : NodeMap → NodeMap}
    {g : (Ref → Option Ref) → Ref → Option Ref}
    (same : ∀ (map : NodeMap) node, (f map)[node]? = g (fun node => map[node]?) node) :
    (m.modify w f).atlas = Function.update w.atlas m ((w.atlas m).map g) := by
  by_cases inside : m.collector < w.collectors.size
  · rw [WeakMap.modify, modifyCollector,
      atlas_setCollector inside (Registry.law.get?_modify _ m.key f), Option.map_map, atlas,
      Option.map_map]
    simp only [Function.comp_def, same]
  · have outside := Nat.not_lt.mp inside
    rw [WeakMap.modify, modifyCollector, setCollector_of_size_le outside, atlas_eq_none outside]
    exact (Function.update_eq_self_iff.mpr (atlas_eq_none outside).symm).symm

theorem atlas_insert (m : WeakMap) (w : World) (node value : Ref) :
    (m.insert w node value).2.atlas = Function.update w.atlas m
      ((w.atlas m).map fun f => Function.update f node (some value)) := by
  refine atlas_modify m w fun map other => ?_
  rw [Std.TreeMap.getElem?_insert, Function.update_apply]
  exact if_congr (Std.compare_eq_iff_eq.trans eq_comm) rfl rfl

theorem atlas_erase (m : WeakMap) (w : World) (node : Ref) :
    (m.erase w node).2.atlas = Function.update w.atlas m
      ((w.atlas m).map fun f => Function.update f node none) := by
  refine atlas_modify m w fun map other => ?_
  rw [Std.TreeMap.getElem?_erase, Function.update_apply]
  exact if_congr (Std.compare_eq_iff_eq.trans eq_comm) rfl rfl

theorem atlas_clear (m : WeakMap) (w : World) :
    (m.clear w).atlas = Function.update w.atlas m ((w.atlas m).map fun _ _ => none) :=
  atlas_modify m w fun _ _ => Std.TreeMap.getElem?_emptyc

theorem atlas_drop (m : WeakMap) (w : World) :
    (m.drop w).atlas = Function.update w.atlas m none := by
  by_cases inside : m.collector < w.collectors.size
  · refine atlas_setCollector inside (x := none) ?_
    exact Registry.law.get?_erase _ m.key
  · have outside := Nat.not_lt.mp inside
    rw [WeakMap.drop, modifyCollector, setCollector_of_size_le outside]
    exact (Function.update_eq_self_iff.mpr (atlas_eq_none outside).symm).symm

theorem atlas_create (hc : (w.collector id).Orderly) : (WeakMap.create w id).2.atlas =
    if id < w.collectors.size then
      Function.update w.atlas (WeakMap.create w id).1 (some fun _ => none)
    else w.atlas := by
  split
  case isTrue inside =>
    refine (atlas_setCollector inside (Registry.law.get?_insert hc.weakMaps ∅)).trans ?_
    rw [Option.map_some]
    simp only [Std.TreeMap.getElem?_emptyc]
    rfl
  case isFalse inside =>
    simp only [WeakMap.create, modifyCollector, setCollector_of_size_le (Nat.not_lt.mp inside)]

def Op.IsMapping : Op → Prop
  | map _ | mapInsert _ _ _ | mapErase _ _ | mapClear _ | mapDrop _ => True
  | _ => False

theorem weakMaps_setCollector {c : Collector} (same : c.weakMaps = (w.collector id).weakMaps)
    (other : CollectorId) :
    ((w.setCollector id c).collector other).weakMaps = (w.collector other).weakMaps :=
  collector_setCollector_ind (P := fun c => c.weakMaps = (w.collector other).weakMaps) rfl
    fun e => e ▸ same

theorem Op.weakMaps_apply {o : Op} (unrelated : ¬o.IsMapping) (w : World) (id : CollectorId) :
    ((o.apply w).collector id).weakMaps = ((w.absorb (o.attempt? w)).collector id).weakMaps := by
  by_cases may : o.MayCollect
  · obtain ⟨_, _, _, e⟩ := (apply_of_mayCollect may w).2 id
    rw [e]
  · rw [attempt?_of_not_mayCollect may]
    cases o with
    | tryTrigger | allocate | intern => exact absurd trivial may
    | map | mapInsert | mapErase | mapClear | mapDrop => exact absurd trivial unrelated
    | create config => exact collector_addCollector_congr Collector.weakMaps (fun _ _ => rfl) w _ id
    | edit other e =>
      obtain ⟨_, _, _, eq, -⟩ := Collector.Edit.apply_eq (w.collector other) e
      rw [apply, modifyCollector, eq]
      exact weakMaps_setCollector (by rfl) id
    | addMarker | setMarker | entrust | sleep | setDefaults | takeLog => rfl
    | setTimeout | keep | keepSet | keepDrop | weak | weakClone | weakDrop | register
      | unregister => exact weakMaps_setCollector (by rfl) id

theorem Op.IsQuiet.not_isMapping {o : Op} (quiet : o.IsQuiet) : ¬o.IsMapping := by
  cases o with
  | map | mapInsert | mapErase | mapClear | mapDrop => exact quiet.elim
  | _ => exact False.elim

theorem atlas_of_areQuiet {ops : List Op} (quiet : ∀ o ∈ ops, o.IsQuiet) (w : World) :
    (ops.foldl Op.apply w).atlas = w.atlas := by
  refine List.foldlRecOn ops Op.apply (motive := fun w' => w'.atlas = w.atlas) rfl
    fun w' before o ho => Eq.trans (atlas_congr fun id => ?_) before
  rw [Op.weakMaps_apply (quiet o ho).not_isMapping,
    Op.attempt?_of_not_mayCollect (quiet o ho).not_mayCollect]
  rfl

theorem atlas_absorb (w : World) (a : Act) :
    (w.absorb (a.attempt? w)).atlas = w.atlas.prune (a.attempt? w) := by
  cases h : a.attempt? w with
  | none => rfl
  | some t =>
    obtain ⟨-, id, owner, -⟩ := Act.attempt_cases h
    funext m
    simp only [atlas, collector_absorb owner, Atlas.prune]
    by_cases mine : t.owner = some m.collector
    · have before := Act.attempt_congr Collector.weakMaps (fun _ _ _ => rfl) h mine
      rw [if_pos mine, t.weakMaps_after, before]
      by_cases completes : t.metrics?.isSome
      · rw [if_pos completes, if_pos ⟨mine, completes⟩, Registry.law.get?_mapValues, Option.map_map,
          Option.map_map]
        simp only [Function.comp_def, NodeMap.getElem?_prune]
        rfl
      · rw [if_neg completes, if_neg fun both => completes both.2]
    · rw [if_neg mine, if_neg fun both => mine both.1]

theorem Act.chart_eq_prune {a : Act} (unrelated : ∀ o, a = op o → ¬o.IsMapping) (w : World)
    (s : Atlas) : a.chart w s = s.prune (a.attempt? w) := by
  cases a with
  | op o =>
    cases o with
    | map | mapInsert | mapErase | mapClear | mapDrop => exact absurd trivial (unrelated _ rfl)
    | _ => rfl
  | _ => rfl

theorem Act.atlas_apply (a : Act) (hw : ∀ id, (w.collector id).Orderly) :
    (a.apply w).atlas = a.chart w w.atlas := by
  by_cases mapping : ∃ o : Op, a = op o ∧ o.IsMapping
  · obtain ⟨o, rfl, mapping⟩ := mapping
    cases o with
    | map id => exact atlas_create (hw id)
    | mapInsert m node value => exact atlas_insert m w node value
    | mapErase m node => exact atlas_erase m w node
    | mapClear m => exact atlas_clear m w
    | mapDrop m => exact atlas_drop m w
    | _ => exact mapping.elim
  · -- All other acts come down to their attempt, if they make one.
    have unrelated (o : Op) (e : a = op o) : ¬o.IsMapping := fun h => mapping ⟨o, e, h⟩
    obtain ⟨ops, quiet, e⟩ := a.apply_eq w
    rw [chart_eq_prune unrelated, ← atlas_absorb, e, atlas_of_areQuiet quiet]
    cases main : a.main? with
    | none =>
      rw [attempt?, main]
      rfl
    | some o =>
      have unrelated : ¬o.IsMapping := by
        rcases Act.eq_of_main? main with rfl | ⟨_, -, rfl⟩ | ⟨_, _, _, -, rfl⟩
        · exact unrelated o rfl
        · exact False.elim
        · exact False.elim
      rw [attempt?, main]
      exact atlas_congr (Op.weakMaps_apply unrelated w)

theorem atlas_play (acts : List Act) : (play acts).atlas = charted acts := by
  induction acts using List.reverseRecOn with
  | nil => rfl
  | append_singleton acts a ih =>
    rw [play_concat, a.atlas_apply (orderly_play acts), ih, charted_concat]

theorem find?_eq_atlas (m : WeakMap) (w : World) (node : Ref) :
    m.find? w node = (w.atlas m).bind (· node) := by
  rw [WeakMap.find?, WeakMap.contents, atlas]
  cases (w.collector m.collector).weakMaps.get? m.key with
  | none => exact Std.TreeMap.getElem?_emptyc
  | some map => rfl

theorem find?_update {m : WeakMap} {f : (Ref → Option Ref) → Ref → Option Ref}
    (h : w'.atlas = Function.update w.atlas m ((w.atlas m).map f)) {other : WeakMap} {node : Ref}
    (apart : other = m → ∀ g : Ref → Option Ref, f g node = g node) :
    other.find? w' node = other.find? w node := by
  rw [find?_eq_atlas, find?_eq_atlas, h, Function.update_apply]
  split
  case isTrue e =>
    subst e
    cases w.atlas other with
    | none => rfl
    | some g => exact apart rfl g
  case isFalse => rfl

theorem size_contents (m : WeakMap) (w : World) :
    (m.contents w).size = {node | (m.find? w node).isSome}.ncard := by
  have all : {node | (m.find? w node).isSome} = ((m.contents w).keys.toFinset : Set Ref) := by
    ext node
    rw [List.coe_toFinset]
    exact (Std.TreeMap.mem_iff_isSome_getElem?.symm.trans Std.TreeMap.mem_keys.symm)
  rw [all, Set.ncard_coe_finset, List.toFinset_card_of_nodup Std.TreeMap.nodup_keys,
    Std.TreeMap.length_keys]

/-- The weak maps always answer as the atlas says, writes to them included. A collection prunes them
of the keys that are gone, whatever they hold, and what is done under one key of one map is no
matter to others. -/
theorem weak_maps_follow_atlas (acts : List Act) :
    (∀ (c c' : Collector) p p' trigger pinned m, c.collect p trigger pinned = (.ok m, c', p') →
      c.Prunes c' m.weakPruned ∧
      ∀ weakMaps : Registry NodeMap, ∃ m' c'' p'',
        ({ c with weakMaps } : Collector).collect p trigger pinned = (.ok m', c'', p'') ∧
          c''.heap = c'.heap) ∧
    (∀ (m : WeakMap) node, m.find? (play acts) node = (charted acts m).bind (· node)) ∧
    (∀ (m : WeakMap) node value, (node, value) ∈ (m.contents (play acts)).toList ↔
      (charted acts m).bind (· node) = some value) ∧
    (∀ m : WeakMap, (m.contents (play acts)).size =
      {node | ((charted acts m).bind (· node)).isSome}.ncard) ∧
    (∀ (m : WeakMap) key value,
      (m.insert (play acts) key value).1 = (charted acts m).bind (· key) ∧
      (m.erase (play acts) key).1 = (charted acts m).bind (· key)) ∧
    (∀ (m other : WeakMap) key value node, other ≠ m ∨ node ≠ key →
      other.find? (m.insert (play acts) key value).2 node = other.find? (play acts) node ∧
      other.find? (m.erase (play acts) key).2 node = other.find? (play acts) node) ∧
    ∀ m other : WeakMap, other ≠ m →
      ∀ node, other.find? (m.clear (play acts)) node = other.find? (play acts) node := by
  have answers (m : WeakMap) (node : Ref) :
      m.find? (play acts) node = (charted acts m).bind (· node) := by
    rw [find?_eq_atlas, atlas_play]
  refine ⟨?_, answers, ?_, ?_, fun m key value => ⟨answers m key, answers m key⟩, ?_, ?_⟩
  · intro c c' p p' trigger pinned m h
    exact ⟨Collector.prunes_collect h, Collector.heap_collect_weakMaps h⟩
  · intro m node value
    rw [← answers]
    exact Std.TreeMap.mem_toList_iff_getElem?_eq_some
  · intro m
    simp only [← answers]
    exact size_contents m (play acts)
  · intro m other key value node apart
    refine ⟨find?_update (atlas_insert m _ key value) ?_, find?_update (atlas_erase m _ key) ?_⟩
    all_goals
      intro same g
      exact Function.update_of_ne (apart.resolve_left (not_not_intro same)) ..
  · intro m other ne node
    exact find?_update (atlas_clear m _) fun same => absurd same ne

end World

end MarkSweep

import MarkSweep.Proofs.Collector.Posting
import MarkSweep.Proofs.World.Order

namespace MarkSweep

/-- Where an entry stands, or could stand. -/
structure Spot where
  collector : CollectorId
  shelf : Shelf
  key : Key
deriving DecidableEq

namespace Handle

def spot : Handle → Spot
  | keep k => ⟨k.collector, .keepAlive, k.key⟩
  | weak r => ⟨r.collector, .weakRefs, r.key⟩
  | map m => ⟨m.collector, .weakMaps, m.key⟩
  | root r => ⟨r.collector, .roots, r.key⟩

def pinned? : Handle → Option Ref
  | keep k => some k.node
  | _ => none

theorem eq_of_spot_eq {h h' : Handle} (spot : h.spot = h'.spot) (pinned : h.pinned? = h'.pinned?) :
    h = h' := by
  rcases h with ⟨_, _, _⟩ | ⟨_, _⟩ | ⟨_, _⟩ | ⟨_, _⟩ <;>
    rcases h' with ⟨_, _, _⟩ | ⟨_, _⟩ | ⟨_, _⟩ | ⟨_, _⟩ <;>
    simp_all [Handle.spot, Handle.pinned?]

def kept? (id : CollectorId) : Handle → Option (Key × Ref)
  | keep k => if k.collector = id then some (k.key, k.node) else none
  | _ => none

def key? (shelf : Shelf) (id : CollectorId) (h : Handle) : Option Key :=
  if h.spot.shelf = shelf ∧ h.spot.collector = id then some h.spot.key else none

theorem kept?_eq_some_iff {id : CollectorId} {h : Handle} {key : Key} {node : Ref} :
    h.kept? id = some (key, node) ↔ h = keep ⟨id, key, node⟩ := by
  cases h with
  | keep k =>
    obtain ⟨collector, key', node'⟩ := k
    by_cases e : collector = id <;> simp [kept?, e]
  | weak | map | root => simp [kept?]

theorem key?_eq_some_iff {shelf : Shelf} {id : CollectorId} {h : Handle} {key : Key} :
    h.key? shelf id = some key ↔ h.spot = ⟨id, shelf, key⟩ := by
  rw [key?]
  generalize h.spot = s
  obtain ⟨collector, shelf', key'⟩ := s
  by_cases e : shelf' = shelf ∧ collector = id
  · simp [e]
  · simp only [if_neg e, reduceCtorEq, Spot.mk.injEq, false_iff]
    exact fun same => e ⟨same.2.1, same.1⟩

end Handle

namespace World

def posting? (w : World) (s : Spot) : Option Posting :=
  (w.collector s.collector).posting? (s.shelf, s.key)

def pin? (w : World) (s : Spot) : Option (Option Ref) :=
  (w.collector s.collector).pin? (s.shelf, s.key)

def Op.made? (w : World) : Op → Option Handle
  | keep id node => some (.keep (KeepAlive.create w id node).1)
  | keepSet k node => some (.keep (k.set w node).1)
  | weak id node => some (.weak (WeakRef.create w id node).1)
  | weakClone r => some (.weak (r.clone w).1)
  | map id => some (.map (WeakMap.create w id).1)
  | register id marker => some (.root (Registration.create w id marker).1)
  | _ => none

def Op.spent? : Op → Option Handle
  | keepSet k _ | keepDrop k => some (.keep k)
  | weakDrop r => some (.weak r)
  | mapDrop m => some (.map m)
  | unregister r => some (.root r)
  | _ => none

def Act.made? (w : World) : Act → Option Handle
  | op o => o.made? w
  | keepCloneFrom k source => some (.keep (k.cloneFrom w source).1)
  | root id m => some (.root (Rooted.create w id m).1.registration)
  | table id => some (.root (StringMap.create w id).1.rooted.registration)
  | _ => none

def Act.spent? : Act → Option Handle
  | op o => o.spent?
  | keepCloneFrom k _ => some (.keep k)
  | _ => none

/-- Handles are made for collectors that exist, and nobody uses a handle up that is not there. -/
structure Act.Owned (w : World) (hs : List Handle) (a : Act) : Prop where
  inside : ∀ h, a.made? w = some h → h.spot.collector < w.collectors.size
  mine : ∀ h, a.spent? = some h → h ∈ hs

instance {w : World} {hs : List Handle} {a : Act} : Decidable (a.Owned w hs) :=
  decidable_of_iff
    ((∀ h ∈ a.made? w, h.spot.collector < w.collectors.size) ∧ ∀ h ∈ a.spent?, h ∈ hs)
    ⟨fun h => ⟨h.1, h.2⟩, fun h => ⟨h.inside, h.mine⟩⟩

variable {w w' : World}

section

variable {id : CollectorId} {c : Collector}

theorem posting?_setCollector (hid : id < w.collectors.size) {shelf : Shelf} {key : Key}
    {x : Option Posting}
    (h : c.posting? = Function.update (w.collector id).posting? (shelf, key) x) :
    (w.setCollector id c).posting? = Function.update w.posting? ⟨id, shelf, key⟩ x := by
  funext ⟨other, shelf', key'⟩
  simp only [posting?, collector_setCollector hid]
  split
  case isTrue e =>
    subst e
    simp [h, posting?, Function.update_apply]
  case isFalse ne =>
    rw [Function.update_of_ne]
    · rfl
    · exact fun e => ne (congrArg Spot.collector e).symm

theorem pin?_eq (h : ∀ id, (w'.collector id).pin? = (w.collector id).pin?) : w'.pin? = w.pin? :=
  funext fun s => congrFun (h s.collector) (s.shelf, s.key)

theorem pin?_setCollector (h : c.pin? = (w.collector id).pin?) :
    (w.setCollector id c).pin? = w.pin? :=
  pin?_eq fun _ => collector_setCollector_ind (P := fun d => d.pin? = _) rfl fun e => e ▸ h

theorem pin?_addCollector (w : World) (config : Config) :
    (w.addCollector config).2.pin? = w.pin? := by
  refine pin?_eq (collector_addCollector_congr Collector.pin? (fun _ _ => ?_) w config)
  exact Collector.pin?_eq rfl (fun _ => rfl) (fun _ => rfl) rfl

theorem lt_size_of_pin? {s : Spot} {x : Option Ref} (h : w.pin? s = some x) :
    s.collector < w.collectors.size := by
  by_contra outside
  rw [pin?, collector_of_size_le (Nat.not_lt.mp outside)] at h
  obtain ⟨_, shelf, _⟩ := s
  cases shelf <;> cases h

end

def without (w : World) (spent : Option Handle) : Spot → Option Posting :=
  spent.elim w.posting? fun h => Function.update w.posting? h.spot none

inductive Reposts (w : World) : Option Handle → Option Handle → World → Prop where
  | rest {w' : World} : w'.pin? = w.pin? → Reposts w none none w'
  | strike {h : Handle} {w' : World} : w'.posting? = w.without (some h) →
    Reposts w none (some h) w'
  | post {h : Handle} {spent : Option Handle} {x : Posting} {w' : World} :
    w.without spent h.spot = none → x.pinned? = h.pinned? →
    w'.posting? = Function.update (w.without spent) h.spot (some x) → Reposts w (some h) spent w'

theorem posting?_create {id : CollectorId} (hid : id < w.collectors.size)
    (hc : (w.collector id).Orderly) (node : Ref) :
    (KeepAlive.create w id node).2.posting? =
      Function.update w.posting? (Handle.keep (KeepAlive.create w id node).1).spot
        (some (.node node)) :=
  posting?_setCollector hid
    (Collector.posting?_keepAlive (Registry.law.get?_insert hc.keepAlive node))

theorem posting?_drop {k : KeepAlive} (hid : k.collector < w.collectors.size) :
    (k.drop w).posting? = Function.update w.posting? (Handle.keep k).spot none :=
  posting?_setCollector hid (Collector.posting?_keepAlive (Registry.law.get?_erase _ _))

theorem reposts_set {k : KeepAlive} (mine : w.pin? (Handle.keep k).spot = some (some k.node))
    (node : Ref) :
    Reposts w (some (.keep (k.set w node).1)) (some (.keep k)) (k.set w node).2 := by
  have present : ((w.collector k.collector).keepAlive.get? k.key).isSome := by
    have pinned := Option.isSome_of_eq_some mine
    rwa [pin?, Collector.pin?, Option.isSome_map, Collector.posting?.eq_def, Handle.spot,
      Option.isSome_map] at pinned
  obtain ⟨old, ho⟩ := Option.isSome_iff_exists.mp present
  have found : ((w.collector k.collector).keepAlive.get? k.key).map (fun _ => node) = some node :=
    congrArg (Option.map _) ho
  have set := posting?_setCollector (lt_size_of_pin? mine)
    (Collector.posting?_keepAlive ((Registry.law.get?_set ..).trans (congrArg _ found)))
  refine .post (x := .node node) (Function.update_self ..) rfl ?_
  exact set.trans (Function.update_idem ..).symm

theorem reposts_watch {id : CollectorId} (hid : id < w.collectors.size)
    (hc : (w.collector id).Orderly) (e : WeakEntry) :
    Reposts w (some (.weak (WeakRef.register w id e).1)) none (WeakRef.register w id e).2 := by
  refine .post (x := .watch e) (congrArg (Option.map _) (Registry.law.fresh hc.weakRefs e)) rfl ?_
  exact posting?_setCollector hid
    (Collector.posting?_weakRefs (Registry.law.get?_insert hc.weakRefs e))

theorem reposts_apply (hw : ∀ id, (w.collector id).Orderly) (o : Op)
    (inside : ∀ h, o.made? w = some h → h.spot.collector < w.collectors.size)
    (mine : ∀ h, o.spent? = some h → w.pin? h.spot = some h.pinned?) :
    Reposts w (o.made? w) o.spent? (o.apply w) := by
  cases o with
  | create config => exact .rest (pin?_addCollector w config)
  | allocate id header object =>
    exact .rest (pin?_setCollector (Collector.pin?_allocate _ w.process header object))
  | intern id text => exact .rest (pin?_setCollector (Collector.pin?_intern _ w.process text))
  | tryTrigger id => exact .rest (pin?_setCollector (Collector.pin?_tryTrigger _ w.process))
  | edit id e => exact .rest (pin?_setCollector (Collector.pin?_edit _ e))
  | setTimeout id =>
    exact .rest (pin?_setCollector (Collector.pin?_eq rfl (fun _ => rfl) (fun _ => rfl) rfl))
  | mapInsert m | mapErase m | mapClear m =>
    exact .rest (pin?_setCollector (Collector.pin?_modify_weakMaps _ m.key _))
  | addMarker | setMarker | entrust | sleep | setDefaults | takeLog => exact .rest rfl
  | keep id node =>
    have free := Registry.law.fresh (hw id).keepAlive node
    exact .post (congrArg (Option.map _) free) rfl (posting?_create (inside _ rfl) (hw id) node)
  | weak id node => exact reposts_watch (inside _ rfl) (hw id) _
  | weakClone r => exact reposts_watch (inside _ rfl) (hw r.collector) _
  | map id =>
    have free := Registry.law.fresh (hw id).weakMaps ∅
    refine .post (x := .nodes ∅) (congrArg (Option.map _) free) rfl ?_
    exact posting?_setCollector (inside _ rfl)
      (Collector.posting?_weakMaps (Registry.law.get?_insert (hw id).weakMaps ∅))
  | register id marker =>
    have free := Registry.law.fresh (hw id).roots marker
    refine .post (x := .marker marker) (congrArg (Option.map _) free) rfl ?_
    exact posting?_setCollector (inside _ rfl)
      (Collector.posting?_roots (Registry.law.get?_insert (hw id).roots marker))
  | keepSet k node => exact reposts_set (mine _ rfl) node
  | keepDrop k => exact .strike (posting?_drop (lt_size_of_pin? (mine _ rfl)))
  | weakDrop r =>
    have hid := lt_size_of_pin? (mine _ rfl)
    exact .strike
      (posting?_setCollector hid (Collector.posting?_weakRefs (Registry.law.get?_erase _ _)))
  | mapDrop m =>
    have hid := lt_size_of_pin? (mine _ rfl)
    exact .strike
      (posting?_setCollector hid (Collector.posting?_weakMaps (Registry.law.get?_erase _ _)))
  | unregister r =>
    have hid := lt_size_of_pin? (mine _ rfl)
    exact .strike
      (posting?_setCollector hid (Collector.posting?_roots (Registry.law.get?_erase _ _)))

theorem reposts_rooted {id : CollectorId} (hid : id < w.collectors.size)
    (hc : (w.collector id).Orderly) (m : Marker) :
    Reposts w (some (.root (Rooted.create w id m).1.registration)) none
      (Rooted.create w id m).2 := by
  have free := Registry.law.fresh hc.roots w.process.markers.size
  refine .post (x := .marker w.process.markers.size) (congrArg (Option.map _) free) rfl ?_
  exact posting?_setCollector (w := (w.addMarker m).2) hid
    (Collector.posting?_roots (Registry.law.get?_insert hc.roots _))

theorem pin?_of_rewrites {r : Rooted} (h : r.Rewrites w w') : w'.pin? = w.pin? :=
  pin?_eq fun id => congrArg Collector.pin? (collector_of_rewrites h id)

theorem collector_cloneFrom (k : KeepAlive) (w : World) (source : KeepAlive) :
    (k.cloneFrom w source).1.collector = source.collector := by
  rw [KeepAlive.cloneFrom]
  split
  case isTrue same => exact same
  case isFalse => rfl

theorem reposts_cloneFrom (hw : ∀ id, (w.collector id).Orderly) {k source : KeepAlive}
    (hid : source.collector < w.collectors.size)
    (mine : w.pin? (Handle.keep k).spot = some (some k.node)) :
    Reposts w (some (.keep (k.cloneFrom w source).1)) (some (.keep k))
      (k.cloneFrom w source).2 := by
  rw [KeepAlive.cloneFrom]
  split
  case isTrue same => exact reposts_set mine source.node
  case isFalse apart =>
    have ne : (Handle.keep (source.clone w).1).spot ≠ (Handle.keep k).spot :=
      fun e => apart (congrArg Spot.collector e).symm
    have free := Registry.law.fresh (hw source.collector).keepAlive source.node
    have cloned := posting?_create hid (hw source.collector) source.node
    have old : k.collector < (source.clone w).2.collectors.size :=
      (lt_size_of_pin? mine).trans_eq (size_setCollector ..).symm
    refine .post (x := .node source.node) ?_ rfl ?_
    · exact (Function.update_of_ne ne ..).trans (congrArg (Option.map _) free)
    · rw [posting?_drop old, KeepAlive.clone, cloned]
      exact Function.update_comm ne ..

theorem Act.reposts (hw : ∀ id, (w.collector id).Orderly) (a : Act)
    (inside : ∀ h, a.made? w = some h → h.spot.collector < w.collectors.size)
    (mine : ∀ h, a.spent? = some h → w.pin? h.spot = some h.pinned?) :
    Reposts w (a.made? w) a.spent? (a.apply w) := by
  cases a with
  | op o => exact reposts_apply hw o inside mine
  | trigger id =>
    rw [apply, trigger_snd]
    exact .rest (pin?_setCollector (Collector.pin?_tryTrigger _ w.process))
  | keepCloneFrom k source =>
    have hid := inside _ rfl
    rw [Handle.spot, collector_cloneFrom] at hid
    exact reposts_cloneFrom hw hid (mine _ rfl)
  | root id m => exact reposts_rooted (inside _ rfl) (hw id) m
  | table id => exact reposts_rooted (inside _ rfl) (hw id) _
  | put m key value =>
    refine .rest ((pin?_of_rewrites (rewrites_insert m w key value)).trans ?_)
    exact pin?_setCollector (Collector.pin?_intern _ w.process key)
  | remove m key => exact .rest (pin?_of_rewrites (rewrites_erase m w key))
  | acquire | release | replace | push | pushToCell | acquireCell | releaseCell =>
    exact .rest (pin?_of_rewrites (rewrites_apply rfl w))

/-- The handles are those that have an entry, and a keep-alive handle has the node of its entry. -/
structure Mirrors (postings : Spot → Option Posting) (hs : List Handle) : Prop where
  nodup : hs.Nodup
  mem_iff : ∀ h, h ∈ hs ↔ (postings h.spot).map Posting.pinned? = some h.pinned?

namespace Mirrors

variable {postings : Spot → Option Posting} {hs : List Handle} {h h' : Handle}

theorem eq_of_spot_eq (mirrors : Mirrors postings hs) (mem : h ∈ hs) (mem' : h' ∈ hs)
    (spot : h.spot = h'.spot) : h = h' := by
  have pinned := (mirrors.mem_iff h).mp mem
  rw [spot, (mirrors.mem_iff h').mp mem'] at pinned
  exact Handle.eq_of_spot_eq spot (Option.some.inj pinned).symm

theorem perm (mirrors : Mirrors postings hs) {hs' : List Handle} (same : hs.Perm hs') :
    Mirrors postings hs' where
  nodup := same.nodup_iff.mp mirrors.nodup
  mem_iff h := same.mem_iff.symm.trans (mirrors.mem_iff h)

theorem cons (mirrors : Mirrors postings hs) {x : Posting} (free : postings h.spot = none)
    (pinned : x.pinned? = h.pinned?) :
    Mirrors (Function.update postings h.spot (some x)) (h :: hs) where
  nodup := by
    refine List.nodup_cons.mpr ⟨fun mem => ?_, mirrors.nodup⟩
    have listed := (mirrors.mem_iff h).mp mem
    rw [free] at listed
    cases listed
  mem_iff h' := by
    rw [List.mem_cons, mirrors.mem_iff]
    by_cases same : h'.spot = h.spot
    · rw [same, Function.update_self, free, Option.map_some, pinned]
      constructor
      · rintro (rfl | absent)
        · rfl
        · cases absent
      · intro e
        exact .inl (Handle.eq_of_spot_eq same (Option.some.inj e).symm)
    · rw [Function.update_of_ne same]
      constructor
      · rintro (rfl | listed)
        · exact absurd rfl same
        · exact listed
      · exact .inr

theorem erase (mirrors : Mirrors postings hs) (mem : h ∈ hs) :
    Mirrors (Function.update postings h.spot none) (hs.erase h) where
  nodup := mirrors.nodup.erase h
  mem_iff h' := by
    rw [mirrors.nodup.mem_erase_iff]
    by_cases same : h'.spot = h.spot
    · rw [same, Function.update_self]
      constructor
      · rintro ⟨ne, mem'⟩
        exact absurd (mirrors.eq_of_spot_eq mem' mem same) ne
      · rintro ⟨⟩
    · rw [Function.update_of_ne same, mirrors.mem_iff]
      constructor
      · exact And.right
      · intro listed
        refine ⟨?_, listed⟩
        rintro rfl
        exact same rfl

theorem without (mirrors : Mirrors w.posting? hs) {spent : Option Handle}
    (mine : ∀ h, spent = some h → h ∈ hs) :
    Mirrors (w.without spent) (hs.diff spent.toList) := by
  cases spent with
  | none => exact mirrors
  | some h =>
    rw [Option.toList_some, List.diff_cons, List.diff_nil]
    exact mirrors.erase (mine h rfl)

theorem reposts (mirrors : Mirrors w.posting? hs) {made spent : Option Handle}
    (mine : ∀ h, spent = some h → h ∈ hs) (reposts : Reposts w made spent w') :
    Mirrors w'.posting? (made.toList ++ hs.diff spent.toList) := by
  cases reposts with
  | rest same =>
    refine ⟨mirrors.nodup, fun h => (mirrors.mem_iff h).trans ?_⟩
    exact Eq.congr_left (congrFun same h.spot).symm
  | strike posted =>
    rw [posted]
    exact mirrors.without mine
  | post free pinned posted =>
    rw [posted]
    exact (mirrors.without mine).cons free pinned

theorem posting?_eq (mirrors : Mirrors w.posting? hs) {made spent : Option Handle}
    (mine : ∀ h, spent = some h → h ∈ hs) (touched : made.isSome ∨ spent.isSome)
    (reposts : Reposts w made spent w') (mem : h ∈ hs) (ne : spent ≠ some h) :
    w'.posting? h.spot = w.posting? h.spot := by
  have left : w.without spent h.spot = w.posting? h.spot := by
    cases spent with
    | none => rfl
    | some other =>
      refine Function.update_of_ne (fun same => ne ?_) ..
      rw [mirrors.eq_of_spot_eq mem (mine other rfl) same]
  cases reposts with
  | rest => simp at touched
  | strike posted => rw [posted, left]
  | @post other _ _ _ free pinned posted =>
    rw [posted, Function.update_of_ne, left]
    intro same
    have listed := (mirrors.mem_iff h).mp mem
    rw [← left, same, free] at listed
    cases listed

theorem exists_mem (mirrors : Mirrors w.posting? hs) {s : Spot} (present : (w.posting? s).isSome) :
    ∃ h ∈ hs, h.spot = s := by
  obtain ⟨x, hx⟩ := Option.isSome_iff_exists.mp present
  have named : ∃ h : Handle, h.spot = s ∧ h.pinned? = x.pinned? := by
    obtain ⟨id, shelf, key⟩ := s
    cases shelf with
    | keepAlive =>
      obtain ⟨node, -, rfl⟩ := Option.map_eq_some_iff.mp hx
      exact ⟨.keep ⟨id, key, node⟩, rfl, rfl⟩
    | weakRefs =>
      obtain ⟨e, -, rfl⟩ := Option.map_eq_some_iff.mp hx
      exact ⟨.weak ⟨id, key⟩, rfl, rfl⟩
    | weakMaps =>
      obtain ⟨m, -, rfl⟩ := Option.map_eq_some_iff.mp hx
      exact ⟨.map ⟨id, key⟩, rfl, rfl⟩
    | roots =>
      obtain ⟨marker, -, rfl⟩ := Option.map_eq_some_iff.mp hx
      exact ⟨.root ⟨id, key⟩, rfl, rfl⟩
  obtain ⟨h, rfl, pinned⟩ := named
  refine ⟨h, (mirrors.mem_iff h).mpr ?_, rfl⟩
  rw [hx, Option.map_some, pinned]

theorem perm_keepAlive (mirrors : Mirrors w.posting? hs) (id : CollectorId) :
    (w.collector id).keepAlive.entries.Perm (hs.filterMap (Handle.kept? id)) := by
  have entries := (w.collector id).keepAlive.nodup_keys.of_map
  have handles : (hs.filterMap (Handle.kept? id)).Nodup := by
    refine mirrors.nodup.filterMap ?_
    rintro h h' ⟨key, node⟩ hk hk'
    rw [Handle.kept?_eq_some_iff.mp hk, Handle.kept?_eq_some_iff.mp hk']
  refine (List.perm_ext_iff_of_nodup entries handles).mpr ?_
  rintro ⟨key, node⟩
  have listed := mirrors.mem_iff (.keep ⟨id, key, node⟩)
  simp only [Registry.mem_entries, List.mem_filterMap, Handle.kept?_eq_some_iff, exists_eq_right,
    listed]
  simp [Handle.spot, Handle.pinned?, posting?, Collector.posting?, Posting.pinned?]

theorem perm_keys (mirrors : Mirrors w.posting? hs) {id : CollectorId} {shelf : Shelf}
    {α : Type} {g : Registry α} {f : α → Posting}
    (posted : ∀ key, w.posting? ⟨id, shelf, key⟩ = (g.get? key).map f) :
    (g.entries.map Prod.fst).Perm (hs.filterMap (Handle.key? shelf id)) := by
  have handles : (hs.filterMap (Handle.key? shelf id)).Nodup := by
    have apart : hs.Pairwise fun h h' => h.spot ≠ h'.spot :=
      mirrors.nodup.imp_of_mem fun mem mem' ne same => ne (mirrors.eq_of_spot_eq mem mem' same)
    refine List.Pairwise.filterMap _ ?_ apart
    rintro h h' ne key hk _ hk' rfl
    rw [Handle.key?_eq_some_iff.mp hk, Handle.key?_eq_some_iff.mp hk'] at ne
    exact ne rfl
  refine (List.perm_ext_iff_of_nodup g.nodup_keys handles).mpr ?_
  intro key
  rw [Registry.mem_keys, ← Option.isSome_map, ← posted, List.mem_filterMap]
  constructor
  · intro present
    obtain ⟨h, mem, spot⟩ := mirrors.exists_mem present
    exact ⟨h, mem, Handle.key?_eq_some_iff.mpr spot⟩
  · rintro ⟨h, mem, hk⟩
    have pinned := (mirrors.mem_iff h).mp mem
    rw [Handle.key?_eq_some_iff.mp hk] at pinned
    exact Option.isSome_map.symm.trans (Option.isSome_of_eq_some pinned)

end Mirrors

theorem Act.Owned.reposts {hs : List Handle} {a : Act} (owned : a.Owned w hs)
    (mirrors : Mirrors w.posting? hs) (hw : ∀ id, (w.collector id).Orderly) :
    Reposts w (a.made? w) a.spent? (a.apply w) :=
  Act.reposts hw a owned.inside fun h spent => (mirrors.mem_iff h).mp (owned.mine h spent)

end World

end MarkSweep

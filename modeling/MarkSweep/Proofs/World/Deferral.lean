import MarkSweep.Proofs.World.Order

/-!
What happens while collections are held off, by the lock or by a mutable borrow somewhere in a
registered value. Whatever is allocated and asked for meanwhile, nothing goes: no node, no weak
observer, no interned text.
-/

namespace MarkSweep

namespace Collector

def IsHeld (c : Collector) (p : Process) : Prop :=
  0 < c.lockDepth ∨ c.IsBusy p ∨ c.IsObstructed p

instance (c : Collector) (p : Process) : Decidable (c.IsHeld p) :=
  decidable_of_iff (0 < c.lockDepth ∨ (c.roots.values.any fun id => (p.marker id).isBusy) ∨
    c.isBlocked p.markers) (by rw [← isBusy_iff, isBlocked_iff, IsHeld])

/-- From the first collector to the second nothing goes, and no collection completes. -/
structure Calm (c c' : Collector) : Prop where
  live : ∀ r, c.isLive r → c'.isLive r
  weakRefs : c'.weakRefs = c.weakRefs
  weakMaps : c'.weakMaps = c.weakMaps
  interned : ∀ (text : String) (node : Ref),
    c.interned[text]? = some node → c'.interned[text]? = some node
  collections : c'.collections = c.collections
  history : c'.history = c.history
  threshold : c'.threshold = c.threshold

variable {c c' c'' : Collector} {p : Process}

theorem Calm.refl (c : Collector) : c.Calm c :=
  ⟨fun _ h => h, rfl, rfl, fun _ _ h => h, rfl, rfl, rfl⟩

theorem Calm.trans (first : c.Calm c') (second : c'.Calm c'') : c.Calm c'' where
  live r h := second.live r (first.live r h)
  weakRefs := second.weakRefs.trans first.weakRefs
  weakMaps := second.weakMaps.trans first.weakMaps
  interned text node h := second.interned text node (first.interned text node h)
  collections := second.collections.trans first.collections
  history := second.history.trans first.history
  threshold := second.threshold.trans first.threshold

theorem AfterFailure.calm (h : c.AfterFailure p c') : c.Calm c' := by
  rcases h with ⟨-, rfl⟩ | ⟨-, -, rfl⟩
  · exact .refl _
  · exact { Calm.refl c with
      live := fun r h => (Heap.isLive_congr c.heap.clearMarks_clearMarks r).trans h }

theorem calm_edit (c : Collector) (e : Edit) : c.Calm (e.apply c) := by
  obtain ⟨heap, trail, lockDepth, eq, live⟩ := Edit.apply_eq c e
  rw [eq]
  exact { Calm.refl c with live := fun r h => (live r).trans h }

theorem calm_intern {text : String}
    (calm : c.Calm (c.allocate p (.ofKind .string) (.chunk text.toUTF8)).2.1) :
    c.Calm (c.intern p text).2.1 := by
  rw [intern]
  split
  case h_1 => exact .refl c
  case h_2 absent =>
    refine { calm with interned := fun other node h => ?_ }
    rw [Std.TreeMap.getElem?_insert, if_neg]
    · exact calm.interned other node h
    · intro e
      rw [Std.compare_eq_iff_eq.mp e, h] at absent
      cases absent

section

variable (hc : c.Orderly) (held : c.IsHeld p)

include hc

theorem calm_place (header : Header) (object : Object) : c.Calm (c.place header object) :=
  { Calm.refl c with live := fun r h => (hc.heap.isLive_allocate header object r).mpr (.inr h) }

theorem calm_allocate_of_due_eq_none {header : Header} {object : Object}
    (due : (c.place header object).due p.clock = none) :
    c.Calm (c.allocate p header object).2.1 := by
  rw [allocate_of_due_eq_none due]
  exact calm_place hc header object

include held

theorem calm_allocate (header : Header) (object : Object) :
    c.Calm (c.allocate p header object).2.1 := by
  cases due : (c.place header object).due p.clock with
  | none => exact calm_allocate_of_due_eq_none hc due
  | some trigger =>
    have some_due : (c.place header object).due p.clock ≠ none := by simp [due]
    obtain ⟨fails, after⟩ := allocate_failure some_due
    exact (calm_place hc header object).trans (after (fails.mpr held)).1.calm

omit hc in
theorem calm_tryTrigger : c.Calm (c.tryTrigger p).2.1 := by
  by_cases locked : c.isLocked
  · rw [tryTrigger_of_locked locked]
    exact .refl c
  · rw [tryTrigger, if_neg locked]
    rcases collect_outcome (p := p) locked .manual none with ⟨-, -, after, -⟩ | ⟨clear, -⟩
    · exact after.calm
    · exact absurd (held.resolve_left fun depth => locked ((isLocked_iff c).mpr depth)) clear

end

end Collector

theorem WeakRef.get?_eq_some_iff {r : WeakRef} {w : World} {node : Ref} :
    r.get? w = some node ↔ (w.collector r.collector).weakRefs.get? r.key = some ⟨node, true⟩ := by
  rw [get?, entry?]
  cases (w.collector r.collector).weakRefs.get? r.key with
  | none => simp
  | some e =>
    obtain ⟨observed, valid⟩ := e
    cases valid <;> simp

theorem WeakMap.find?_eq_some_iff {m : WeakMap} {w : World} {node value : Ref} :
    m.find? w node = some value ↔ ∃ entries : NodeMap,
      (w.collector m.collector).weakMaps.get? m.key = some entries ∧ entries[node]? = some value := by
  rw [find?, contents]
  cases (w.collector m.collector).weakMaps.get? m.key with
  | none => simp
  | some entries => simp

namespace World

def IsHeld (w : World) (id : CollectorId) : Prop := (w.collector id).IsHeld w.process

instance (w : World) (id : CollectorId) : Decidable (w.IsHeld id) :=
  inferInstanceAs (Decidable ((w.collector id).IsHeld w.process))

def Act.Alters (m : WeakMap) (node : Ref) : Act → Prop
  | op (.mapInsert m' node' _) | op (.mapErase m' node') => m' = m ∧ node' = node
  | op (.mapClear m') | op (.mapDrop m') => m' = m
  | _ => False

/-- From the first world to the second one collector loses nothing but what the acts themselves
take out of its weak tables, and completes no collection. -/
structure Keeps (id : CollectorId) (acts : List Act) (w w' : World) : Prop where
  live : ∀ r, (w.collector id).isLive r → (w'.collector id).isLive r
  weakRefs : ∀ r : WeakRef, r.collector = id → .op (.weakDrop r) ∉ acts →
    ∀ node, r.get? w = some node → r.get? w' = some node
  weakMaps : ∀ m : WeakMap, m.collector = id → ∀ node, (∀ a ∈ acts, ¬a.Alters m node) →
    ∀ value, m.find? w node = some value → m.find? w' node = some value
  interned : ∀ text node, (w.collector id).findInterned text = some node →
    (w'.collector id).findInterned text = some node
  collections : (w'.collector id).collections = (w.collector id).collections
  history : (w'.collector id).history = (w.collector id).history
  threshold : (w'.collector id).threshold = (w.collector id).threshold

variable {w w' w'' : World} {id : CollectorId} {acts more : List Act}

theorem Keeps.of_calm (h : (w.collector id).Calm (w'.collector id)) : Keeps id acts w w' where
  live := h.live
  weakRefs := by
    rintro r rfl - node hr
    rw [WeakRef.get?_eq_some_iff] at hr ⊢
    rwa [h.weakRefs]
  weakMaps := by
    rintro m rfl node - value hm
    rw [WeakMap.find?_eq_some_iff] at hm ⊢
    rwa [h.weakMaps]
  interned := h.interned
  collections := h.collections
  history := h.history
  threshold := h.threshold

theorem Keeps.trans (first : Keeps id acts w w') (second : Keeps id more w' w'') :
    Keeps id (acts ++ more) w w'' where
  live r hl := second.live r (first.live r hl)
  weakRefs r hr kept node h := by
    rw [List.mem_append, not_or] at kept
    exact second.weakRefs r hr kept.2 node (first.weakRefs r hr kept.1 node h)
  weakMaps m hm node kept value h :=
    second.weakMaps m hm node (fun a ha => kept a (List.mem_append_right _ ha)) value
      (first.weakMaps m hm node (fun a ha => kept a (List.mem_append_left _ ha)) value h)
  interned text node h := second.interned text node (first.interned text node h)
  collections := second.collections.trans first.collections
  history := second.history.trans first.history
  threshold := second.threshold.trans first.threshold

theorem calm_setCollector {other : CollectorId} {c : Collector}
    (step : other = id → (w.collector id).Calm c) :
    (w.collector id).Calm ((w.setCollector other c).collector id) :=
  collector_setCollector_ind (.refl _) step

theorem calm_of_isQuiet {o : Op} (quiet : o.IsQuiet) (w : World) (id : CollectorId) :
    (w.collector id).Calm ((o.apply w).collector id) := by
  cases o with
  | keep | keepSet | keepDrop | register | unregister =>
    apply calm_setCollector
    rintro rfl
    exact { Collector.Calm.refl _ with }
  | addMarker | setMarker | entrust => exact .refl _
  | _ => exact quiet.elim

theorem calm_of_areQuiet {ops : List Op} (quiet : ∀ o ∈ ops, o.IsQuiet) (w : World)
    (id : CollectorId) : (w.collector id).Calm ((ops.foldl Op.apply w).collector id) :=
  List.foldlRecOn ops Op.apply (motive := fun w' => (w.collector id).Calm (w'.collector id))
    (.refl _) fun w' before o ho => before.trans (calm_of_isQuiet (quiet o ho) w' id)

theorem calm_of_mayCollect {o : Op} (hw : (w.collector id).Orderly) (held : w.IsHeld id)
    (collecting : o.MayCollect) : (w.collector id).Calm ((o.apply w).collector id) := by
  cases o with
  | allocate other header object =>
    apply calm_setCollector
    rintro rfl
    exact Collector.calm_allocate hw held header object
  | intern other text =>
    apply calm_setCollector
    rintro rfl
    exact Collector.calm_intern (Collector.calm_allocate hw held _ _)
  | tryTrigger other =>
    apply calm_setCollector
    rintro rfl
    exact Collector.calm_tryTrigger held
  | _ => exact collecting.elim

theorem keeps_modifyCollector {other : CollectorId} {f : Collector → Collector}
    (tables : ∀ c, ∃ weakRefs weakMaps, f c = { c with weakRefs, weakMaps })
    (refs : ∀ key e, .op (.weakDrop ⟨other, key⟩) ∉ acts →
      (w.collector other).weakRefs.get? key = some e →
      (f (w.collector other)).weakRefs.get? key = some e)
    (maps : ∀ key node value, (∀ a ∈ acts, ¬a.Alters ⟨other, key⟩ node) →
      ∀ entries : NodeMap, (w.collector other).weakMaps.get? key = some entries →
      entries[node]? = some value → ∃ entries' : NodeMap,
        (f (w.collector other)).weakMaps.get? key = some entries' ∧ entries'[node]? = some value) :
    Keeps id acts w (w.modifyCollector other f) := by
  have outcome : (w.modifyCollector other f).collector id = w.collector id ∨
      other = id ∧ (w.modifyCollector other f).collector id = f (w.collector id) := by
    apply collector_setCollector_ind (P := fun c => c = _ ∨ other = id ∧ c = _)
    · exact .inl rfl
    · rintro rfl
      exact .inr ⟨rfl, rfl⟩
  rcases outcome with same | ⟨rfl, changed⟩
  · exact .of_calm (same ▸ .refl _)
  · obtain ⟨weakRefs, weakMaps, e⟩ := tables (w.collector other)
    rw [← changed] at refs maps
    rw [e] at changed
    refine ⟨?_, ?_, ?_, ?_, ?_, ?_, ?_⟩
    · intro r hl
      rwa [changed]
    · rintro r rfl kept node hr
      rw [WeakRef.get?_eq_some_iff] at hr ⊢
      exact refs r.key _ kept hr
    · rintro m rfl node kept value hm
      rw [WeakMap.find?_eq_some_iff] at hm ⊢
      obtain ⟨entries, he, hv⟩ := hm
      exact maps m.key node value kept entries he hv
    · intro text node h
      rwa [changed]
    · rw [changed]
    · rw [changed]
    · rw [changed]

theorem keeps_modifyMap {m : WeakMap} {f : NodeMap → NodeMap}
    (step : ∀ node value (entries : NodeMap), (∀ a ∈ acts, ¬a.Alters m node) →
      entries[node]? = some value → (f entries)[node]? = some value) :
    Keeps id acts w (m.modify w f) := by
  apply keeps_modifyCollector (fun c => ⟨_, _, rfl⟩)
  · exact fun _ _ _ h => h
  · intro key node value kept entries h hv
    by_cases e : m.key = key
    · subst e
      have changed : ((w.collector m.collector).weakMaps.modify m.key f).get? m.key =
          some (f entries) := by
        rw [Registry.law.get?_modify_self, h]
        rfl
      exact ⟨f entries, changed, step node value entries kept hv⟩
    · exact ⟨entries, by rw [Registry.law.get?_modify_of_ne _ e, h], hv⟩

theorem lt_size_of_isHeld (held : w.IsHeld id) : id < w.collectors.size := by
  by_contra outside
  rw [IsHeld, collector_of_size_le (Nat.not_lt.mp outside)] at held
  rcases held with depth | ⟨key, id, root, -⟩ | ⟨key, id, root, -⟩
  · cases depth
  · exact Option.some_ne_none id (root.symm.trans (Registry.law.get?_empty key))
  · exact Option.some_ne_none id (root.symm.trans (Registry.law.get?_empty key))

-- A weak entry that is not taken out has another key, or another node in its map, than the one that
-- the operation is about.
theorem keeps_op (hw : ∀ id, (w.collector id).Orderly) (held : w.IsHeld id) (o : Op) :
    Keeps id [.op o] w (o.apply w) := by
  cases o with
  | create config =>
    apply Keeps.of_calm
    rw [Op.apply, collector_addCollector (lt_size_of_isHeld held)]
    exact .refl _
  | allocate | intern | tryTrigger => exact .of_calm (calm_of_mayCollect (hw id) held trivial)
  | keep | keepSet | keepDrop | register | unregister | addMarker | setMarker | entrust =>
    apply Keeps.of_calm
    apply calm_of_isQuiet
    exact trivial
  | sleep | setDefaults | takeLog => exact .of_calm (.refl _)
  | setTimeout other milliseconds =>
    exact .of_calm (calm_setCollector fun e => e ▸ { Collector.Calm.refl _ with })
  | edit other e => exact .of_calm (calm_setCollector fun h => h ▸ Collector.calm_edit _ e)
  | weak other node =>
    apply keeps_modifyCollector (fun c => ⟨_, _, rfl⟩)
    · intro key e _ he
      exact Registry.law.get?_insert_of_eq_some (hw other).weakRefs _ he
    · exact fun _ _ _ _ entries h hv => ⟨entries, h, hv⟩
  | weakClone r =>
    apply keeps_modifyCollector (fun c => ⟨_, _, rfl⟩)
    · intro key e _ he
      exact Registry.law.get?_insert_of_eq_some (hw r.collector).weakRefs _ he
    · exact fun _ _ _ _ entries h hv => ⟨entries, h, hv⟩
  | weakDrop r =>
    apply keeps_modifyCollector (fun c => ⟨_, _, rfl⟩)
    · intro key e kept he
      have other : r.key ≠ key := by
        rintro rfl
        exact kept (List.mem_singleton.mpr rfl)
      rw [Registry.law.get?_erase_of_ne _ other, he]
    · exact fun _ _ _ _ entries h hv => ⟨entries, h, hv⟩
  | map other =>
    apply keeps_modifyCollector (fun c => ⟨_, _, rfl⟩)
    · exact fun _ _ _ h => h
    · intro key node value _ entries h hv
      exact ⟨entries, Registry.law.get?_insert_of_eq_some (hw other).weakMaps _ h, hv⟩
  | mapInsert m node value =>
    apply keeps_modifyMap
    intro other held entries kept hv
    have ne : node ≠ other := fun e => kept _ (List.mem_singleton.mpr rfl) ⟨rfl, e⟩
    rw [Std.TreeMap.getElem?_insert, if_neg (mt Std.compare_eq_iff_eq.mp ne), hv]
  | mapErase m node =>
    apply keeps_modifyMap
    intro other held entries kept hv
    have ne : node ≠ other := fun e => kept _ (List.mem_singleton.mpr rfl) ⟨rfl, e⟩
    rw [Std.TreeMap.getElem?_erase, if_neg (mt Std.compare_eq_iff_eq.mp ne), hv]
  | mapClear m =>
    apply keeps_modifyMap
    intro other held entries kept hv
    exact absurd rfl (kept _ (List.mem_singleton.mpr rfl))
  | mapDrop m =>
    apply keeps_modifyCollector (fun c => ⟨_, _, rfl⟩)
    · exact fun _ _ _ h => h
    · intro key node value kept entries h hv
      have ne : m.key ≠ key := by
        rintro rfl
        exact kept _ (List.mem_singleton.mpr rfl) rfl
      exact ⟨entries, by rw [Registry.law.get?_erase_of_ne _ ne, h], hv⟩

theorem keeps_act (hw : ∀ id, (w.collector id).Orderly) (held : w.IsHeld id) (a : Act) :
    Keeps id [a] w (a.apply w) := by
  rcases a.apply_cases w with ⟨o, rfl⟩ | ⟨ops, quiet, e⟩ | ⟨o, ops, collecting, quiet, e⟩
  · exact keeps_op hw held o
  · rw [e]
    exact .of_calm (calm_of_areQuiet quiet w id)
  · rw [e]
    have first := calm_of_mayCollect (hw id) held collecting
    exact .of_calm (first.trans (calm_of_areQuiet quiet _ id))

theorem keeps_play {before : List Act}
    (held : ∀ part a, part ++ [a] <+: acts → (play (before ++ part)).IsHeld id) :
    Keeps id acts (play before) (play (before ++ acts)) := by
  induction acts using List.reverseRecOn with
  | nil =>
    rw [List.append_nil]
    exact .of_calm (.refl _)
  | append_singleton acts a ih =>
    have earlier := ih fun part b hp => held part b (hp.trans (List.prefix_append acts [a]))
    rw [← List.append_assoc, play_concat]
    exact earlier.trans (keeps_act (orderly_play _) (held acts a List.prefix_rfl) a)

/-- While every act finds the collector held, it loses nothing, between any two moments. -/
theorem held_collector_keeps_all (before acts : List Act) (id : CollectorId)
    (held : ∀ part a, part ++ [a] <+: acts → (play (before ++ part)).IsHeld id) :
    ∀ part rest, acts = part ++ rest →
      Keeps id rest (play (before ++ part)) (play (before ++ acts)) := by
  rintro part rest rfl
  rw [← List.append_assoc]
  apply keeps_play
  intro inner a hp
  rw [List.append_assoc]
  apply held (part ++ inner) a
  rw [List.append_assoc]
  exact (List.prefix_append_right_inj part).mpr hp

def watched : List Act :=
  [.op (.create { threshold := 64 }), .op (.allocate 0 (.ofKind .chunk) (.zeros 3)),
    .op (.weak 0 ⟨0, 0⟩), .root 0 (.rooted .unused (.group [.cell .unused .inert])),
    .op (.edit 0 .lock)]

def crossing : List Act :=
  [.op (.allocate 0 (.ofKind .chunk) (.zeros 40)),
    .acquireCell ⟨0, ⟨0, ⟨0, 1⟩⟩⟩ 0 .exclusive, .op (.edit 0 .unlock), .op (.intern 0 "x"),
    .op (.tryTrigger 0)]

theorem crossing_keeps_all :
    (∀ part a, part ++ [a] <+: crossing → (play (watched ++ part)).IsHeld 0) ∧
      WeakRef.get? ⟨0, ⟨0, 1⟩⟩ (play (watched ++ crossing)) = some ⟨0, 0⟩ ∧
      ((play (watched ++ crossing)).collector 0).isLive ⟨0, 0⟩ ∧
      ((play (watched ++ crossing)).collector 0).collections = 0 := by
  have held : ∀ part ∈ crossing.inits, (play (watched ++ part)).IsHeld 0 := by decide +kernel
  have held' (part : List Act) (a : Act) (hp : part ++ [a] <+: crossing) :
      (play (watched ++ part)).IsHeld 0 :=
    held part ((List.mem_inits _ _).mpr ((List.prefix_append part [a]).trans hp))
  have kept := held_collector_keeps_all watched crossing 0 held' [] crossing rfl
  rw [List.append_nil] at kept
  refine ⟨held', ?_, ?_, ?_⟩
  · exact kept.weakRefs _ rfl (by simp [crossing]) _ (by decide +kernel)
  · exact kept.live _ (by decide +kernel)
  · exact kept.collections.trans (by decide +kernel)

end World

end MarkSweep

import MarkSweep.Proofs.World.Mirror

/-!
All string maps of a world at once. Beside a run goes a catalogue, in which every map that exists
has a finite map from texts to values. Each act of the run does to the catalogue what its name
says, and the maps always answer as the finite maps do.
-/

namespace MarkSweep

/-- The string maps that exist, each with the finite map that it should be. -/
abbrev Catalogue := StringMap → Option (Std.TreeMap String Traced)

namespace World

def Act.enter (w : World) (s : Catalogue) : Act → Catalogue
  | table id => Function.update s (StringMap.create w id).1 (some ∅)
  | put m key value => Function.update s m ((s m).map (·.insert key value))
  | remove m key => Function.update s m ((s m).map (·.erase key))
  | op (.unregister r) => fun m => if m.rooted.registration = r then none else s m
  | _ => s

def Act.Respects (w : World) (s : Catalogue) : Act → Prop
  | table id => id < w.collectors.size
  | put m _ _ | remove m _ => (s m).isSome ∧ (m.entries w).1 = .unused
  | op (.setMarker id _) => ∀ m, (s m).isSome → id ≠ m.rooted.marker
  | acquire r a | release r a => ∀ m, (s m).isSome → r.marker = m.rooted.marker → a = .shared
  | replace r _ | push r _ | pushToCell r _ _ | acquireCell r _ _ | releaseCell r _ _ =>
    ∀ m, (s m).isSome → r.marker ≠ m.rooted.marker
  | _ => True

theorem Act.enter_op {w : World} {s : Catalogue} {o : Op} (kept : ∀ r, o ≠ .unregister r) :
    (op o).enter w s = s := by
  cases o with
  | unregister r => exact absurd rfl (kept r)
  | _ => rfl

def record (acts : List Act) : World × Catalogue :=
  acts.foldl (fun p a => (a.apply p.1, a.enter p.1 p.2)) ({}, fun _ => none)

def catalogue (acts : List Act) : Catalogue := (record acts).2

inductive Respectful : List Act → Prop where
  | nil : Respectful []
  | concat {acts : List Act} {a : Act} : Respectful acts →
    a.Respects (play acts) (catalogue acts) → Respectful (acts ++ [a])

theorem record_fst (acts : List Act) : (record acts).1 = play acts := by
  induction acts using List.reverseRecOn with
  | nil => rfl
  | append_singleton acts a ih => rw [play_concat, ← ih, record, List.foldl_concat, record]

theorem catalogue_concat (acts : List Act) (a : Act) :
    catalogue (acts ++ [a]) = a.enter (play acts) (catalogue acts) := by
  rw [catalogue, record, List.foldl_concat, ← record, record_fst, catalogue]

/-- Every map in the catalogue mirrors its finite map, and no two maps share a marker. -/
structure Matches (w : World) (s : Catalogue) : Prop where
  mirrors : ∀ m t, s m = some t → m.Mirrors w t
  apart : ∀ m n, (s m).isSome → (s n).isSome → m.rooted.marker = n.rooted.marker → m = n

variable {w w' : World} {s : Catalogue} {a : Act} {m : StringMap} {t t' : Std.TreeMap String Traced}

namespace Matches

theorem empty : Matches {} fun _ => none where
  mirrors _ _ h := by cases h
  apart _ _ h := by cases h

theorem of_mirrors (h : Matches w s) (mirrors : ∀ m t, s m = some t → m.Mirrors w' t) :
    Matches w' s :=
  ⟨mirrors, h.apart⟩

theorem op (h : Matches w s) (hw : ∀ id, (w.collector id).Orderly) {o : Op}
    (registration : ∀ m, (s m).isSome → o ≠ .unregister m.rooted.registration)
    (marker : ∀ m, (s m).isSome → ∀ n, o ≠ .setMarker m.rooted.marker n) :
    Matches (o.apply w) s := by
  apply h.of_mirrors
  intro m t hm
  have listed : (s m).isSome := Option.isSome_of_eq_some hm
  exact (h.mirrors m t hm).op hw (registration m listed) (marker m listed)

theorem rewrites (h : Matches w s) (hw : ∀ id, (w.collector id).Orderly) {r : Rooted}
    (written : r.Rewrites w w')
    (mine : ∀ m t, s m = some t → r.marker = m.rooted.marker → m.Mirrors w' t) :
    Matches w' s := by
  apply h.of_mirrors
  intro m t hm
  by_cases same : r.marker = m.rooted.marker
  · exact mine m t hm same
  · exact (h.mirrors m t hm).rewrites hw same written

theorem acquire (h : Matches w s) (hw : ∀ id, (w.collector id).Orderly) {r : Rooted} {a : Access}
    (shared : ∀ m, (s m).isSome → r.marker = m.rooted.marker → a = .shared) :
    Matches (w.settle (r.acquire w a)) s := by
  refine h.rewrites hw (Act.rewrites_apply (a := .acquire r a) rfl w) ?_
  intro m t hm same
  obtain rfl := shared m (Option.isSome_of_eq_some hm) same
  have mirrors := h.mirrors m t hm
  obtain ⟨readers, _, table, -⟩ := mirrors.table
  rw [StringMap.settle_acquire_eq table same]
  exact mirrors.setBorrow (readers + 1)

theorem release (h : Matches w s) (hw : ∀ id, (w.collector id).Orderly) {r : Rooted} {a : Access}
    (shared : ∀ m, (s m).isSome → r.marker = m.rooted.marker → a = .shared) :
    Matches (r.release w a) s := by
  refine h.rewrites hw (Act.rewrites_apply (a := .release r a) rfl w) ?_
  intro m t hm same
  obtain rfl := shared m (Option.isSome_of_eq_some hm) same
  have mirrors := h.mirrors m t hm
  obtain ⟨readers, _, table, -⟩ := mirrors.table
  rw [StringMap.release_eq table same]
  exact mirrors.setBorrow (readers - 1)

theorem update (h : Matches w s) (hm : (s m).isSome) (mine : m.Mirrors w' t')
    (others : ∀ n u, s n = some u → n.rooted.marker ≠ m.rooted.marker → n.Mirrors w' u) :
    Matches w' (Function.update s m (some t')) where
  mirrors n u hn := by
    by_cases e : n = m
    · subst e
      rw [Function.update_self] at hn
      cases hn
      exact mine
    · rw [Function.update_of_ne e] at hn
      refine others n u hn ?_
      intro same
      exact e (h.apart n m (Option.isSome_of_eq_some hn) hm same)
  apart n n' hn hn' := by
    have listed (k : StringMap) (hk : (Function.update s m (some t') k).isSome) : (s k).isSome := by
      by_cases e : k = m
      · rwa [e]
      · rwa [Function.update_of_ne e] at hk
    exact h.apart n n' (listed n hn) (listed n' hn')

theorem put (h : Matches w s) (hw : ∀ id, (w.collector id).Orderly) (hm : s m = some t)
    (unused : (m.entries w).1 = .unused) (key : String) (value : Traced) :
    Matches (m.insert w key value).2 (Function.update s m (some (t.insert key value))) := by
  refine h.update (Option.isSome_of_eq_some hm) ((h.mirrors m t hm).insert hw unused key value).2 ?_
  intro n u hn ne
  have interned := (h.mirrors n u hn).op (o := .intern m.rooted.owner key) hw (by simp) (by simp)
  exact interned.rewrites (orderly_apply hw _) ne.symm (rewrites_insert m w key value)

theorem remove (h : Matches w s) (hw : ∀ id, (w.collector id).Orderly) (hm : s m = some t)
    (unused : (m.entries w).1 = .unused) (key : String) :
    Matches (m.erase w key).2 (Function.update s m (some (t.erase key))) := by
  refine h.update (Option.isSome_of_eq_some hm) ((h.mirrors m t hm).erase (hw _) unused key).2 ?_
  intro n u hn ne
  exact (h.mirrors n u hn).rewrites hw ne.symm (rewrites_erase m w key)

theorem marker_lt (h : Matches w s) (hm : (s m).isSome) :
    m.rooted.marker < w.process.markers.size := by
  obtain ⟨t, ht⟩ := Option.isSome_iff_exists.mp hm
  obtain ⟨_, _, table, -⟩ := (h.mirrors m t ht).table
  exact lt_size_of_table? table

theorem create (h : Matches w s) (hw : ∀ id, (w.collector id).Orderly) {id : CollectorId}
    (hid : id < w.collectors.size) :
    Matches (StringMap.create w id).2
      (Function.update s (StringMap.create w id).1 (some ∅)) := by
  have made : (StringMap.create w id).1.rooted.marker = w.process.markers.size := rfl
  have grown : Matches (StringMap.create w id).2 s := by
    have marked := h.op (o := .addMarker (.table .unused ∅)) hw (by simp) (by simp)
    exact marked.op (o := .register id _) (orderly_apply hw _) (by simp) (by simp)
  have fresh (n : StringMap) (hn : (s n).isSome) :
      n.rooted.marker ≠ (StringMap.create w id).1.rooted.marker :=
    Nat.ne_of_lt (h.marker_lt hn)
  constructor
  · intro n u hn
    by_cases e : n = (StringMap.create w id).1
    · subst e
      rw [Function.update_self] at hn
      cases hn
      exact .create hid (hw id)
    · rw [Function.update_of_ne e] at hn
      exact grown.mirrors n u hn
  · intro n n' hn hn' same
    by_cases e : n = (StringMap.create w id).1
    · by_cases e' : n' = (StringMap.create w id).1
      · rw [e, e']
      · rw [Function.update_of_ne e'] at hn'
        exact absurd (e ▸ same.symm) (fresh n' hn')
    · rw [Function.update_of_ne e] at hn
      by_cases e' : n' = (StringMap.create w id).1
      · exact absurd (e' ▸ same) (fresh n hn)
      · rw [Function.update_of_ne e'] at hn'
        exact h.apart n n' hn hn' same

theorem unregister (h : Matches w s) (hw : ∀ id, (w.collector id).Orderly) (r : Registration) :
    Matches ((Op.unregister r).apply w)
      fun m => if m.rooted.registration = r then none else s m where
  mirrors m t hm := by
    split at hm
    case isTrue => cases hm
    case isFalse ne =>
      refine (h.mirrors m t hm).op hw ?_ (by simp)
      rintro e
      exact ne (Op.unregister.inj e).symm
  apart m n hm hn := by
    split at hm
    case isTrue => cases hm
    case isFalse =>
      split at hn
      case isTrue => cases hn
      case isFalse => exact h.apart m n hm hn

theorem act (h : Matches w s) (hw : ∀ id, (w.collector id).Orderly) (respects : a.Respects w s) :
    Matches (a.apply w) (a.enter w s) := by
  have inert {o : Op} (registration : ∀ r, o ≠ .unregister r)
      (marker : ∀ id n, o ≠ .setMarker id n) :
      Matches (o.apply w) s ∧ ∀ id, ((o.apply w).collector id).Orderly :=
    ⟨h.op hw (fun _ _ => registration _) fun _ _ => marker _, orderly_apply hw o⟩
  cases a with
  | op o =>
    by_cases dropping : ∃ r, o = .unregister r
    · obtain ⟨r, rfl⟩ := dropping
      exact h.unregister hw r
    · rw [Act.enter_op fun r e => dropping ⟨r, e⟩]
      refine h.op (o := o) hw (fun m _ e => dropping ⟨_, e⟩) ?_
      rintro m hm n rfl
      exact respects m hm rfl
  | trigger id =>
    rw [Act.apply, trigger_snd]
    exact (inert (o := .tryTrigger id) (by simp) (by simp)).1
  | keepCloneFrom k source =>
    rw [Act.apply, KeepAlive.cloneFrom]
    split
    · exact (inert (o := .keepSet k source.node) (by simp) (by simp)).1
    · obtain ⟨first, hw'⟩ := inert (o := .keep source.collector source.node) (by simp) (by simp)
      exact first.op (o := .keepDrop k) hw' (by simp) (by simp)
  | root id n =>
    obtain ⟨first, hw'⟩ := inert (o := .addMarker n) (by simp) (by simp)
    exact first.op (o := .register id _) hw' (by simp) (by simp)
  | acquire r access => exact h.acquire hw respects
  | release r access => exact h.release hw respects
  | replace | push | pushToCell | acquireCell | releaseCell =>
    refine h.rewrites hw (Act.rewrites_apply rfl w) ?_
    intro m t hm same
    exact absurd same (respects m (Option.isSome_of_eq_some hm))
  | table id => exact h.create hw respects
  | put m key value =>
    obtain ⟨t, hm⟩ := Option.isSome_iff_exists.mp respects.1
    rw [Act.enter, hm]
    exact h.put hw hm respects.2 key value
  | remove m key =>
    obtain ⟨t, hm⟩ := Option.isSome_iff_exists.mp respects.1
    rw [Act.enter, hm]
    exact h.remove hw hm respects.2 key

end Matches

theorem matches_play {acts : List Act} (respectful : Respectful acts) :
    Matches (play acts) (catalogue acts) := by
  induction respectful with
  | nil => exact .empty
  | @concat acts a _ respects ih =>
    rw [play_concat, catalogue_concat]
    exact ih.act (orderly_play acts) respects

/-- However maps are used alongside everything else, each answers as its finite map does: a text is
found exactly if it was inserted and not removed since, with the value that was inserted last,
there are as many entries as such texts, and insertion and removal give back what the text had. -/
theorem string_maps_refine_catalogue (acts : List Act) (respectful : Respectful acts)
    (m : StringMap) (t : Std.TreeMap String Traced) (listed : catalogue acts m = some t) :
    (∀ key, m.find? (play acts) key = t[key]?) ∧
      (∀ key, (m.find? (play acts) key).isSome ↔ key ∈ t) ∧
      m.size (play acts) = t.size ∧
      ((m.entries (play acts)).1 = .unused → ∀ key,
        (∀ value, (m.insert (play acts) key value).1 = .ok t[key]?) ∧
        (m.erase (play acts) key).1 = .ok t[key]?) := by
  have orderly := orderly_play acts
  have mirrors := (matches_play respectful).mirrors m t listed
  refine ⟨mirrors.find?_eq, ?_, mirrors.size_eq (orderly _), ?_⟩
  · intro key
    rw [mirrors.find?_eq, Std.TreeMap.mem_iff_isSome_getElem?]
  · intro unused key
    exact ⟨fun value => (mirrors.insert orderly unused key value).1,
      (mirrors.erase (orderly _) unused key).1⟩

def near : StringMap := ⟨⟨0, ⟨0, ⟨0, 1⟩⟩⟩⟩

def far : StringMap := ⟨⟨1, ⟨0, ⟨1, 1⟩⟩⟩⟩

def sharing : List Act :=
  [.op (.create { threshold := 64 }), .table 0, .table 0, .put near "k" (.slot (.scalar 1)),
    .put far "k" (.slot (.scalar 2)), .op (.intern 0 "l"), .op (.intern 0 "m"), .trigger 0,
    .remove near "k"]

theorem maps_share_text :
    near.find? (play sharing) "k" = none ∧ near.size (play sharing) = 0 ∧
      far.find? (play sharing) "k" = some (.slot (.scalar 2)) ∧ far.size (play sharing) = 1 := by
  have respectful : Respectful sharing := by
    refine .concat (.concat (.concat (.concat (.concat (.concat (.concat (.concat (.concat .nil
      ?create) ?near) ?far) ?first) ?second) ?automatic) ?crowded) ?manual) ?remove
    case create | automatic | crowded | manual => exact trivial
    case near | far =>
      show 0 < _
      decide +kernel
    case first | second | remove =>
      constructor
      · decide +kernel
      · decide +kernel
  have emptied : catalogue sharing near =
      some (((∅ : Std.TreeMap String Traced).insert "k" (.slot (.scalar 1))).erase "k") := rfl
  have filled : catalogue sharing far =
      some ((∅ : Std.TreeMap String Traced).insert "k" (.slot (.scalar 2))) := rfl
  obtain ⟨nothing, -, none, -⟩ := string_maps_refine_catalogue sharing respectful near _ emptied
  obtain ⟨found, -, one, -⟩ := string_maps_refine_catalogue sharing respectful far _ filled
  exact ⟨nothing "k", none, found "k", one⟩

end World

end MarkSweep

import MarkSweep.Proofs.World.Drop

/-!
Programs and their handles. A handle that exists belongs to the program or to a marker, and may
change hands. The registries of all collectors hold an entry for each handle. They hold no other,
but for those of the registrations that found their root set borrowed when they were dropped.
-/

namespace MarkSweep

open World

structure Program where
  world : World := {}
  handles : List Handle := []
  stranded : List Registration := []

namespace Program

def existing (p : Program) : List Handle := p.handles ++ p.world.owned.map Prod.snd

def listed (p : Program) : List Handle := p.existing ++ p.stranded.map .root

inductive Move where
  | act (a : Act)
  | entrust (handles : List Handle) (owned : List (MarkerId × Handle)) (held : List MarkerId)
  | drop (h : Handle)
  | release (m : MarkerId)

def IsPlain : Act → Bool
  | .op (.unregister _) | .op (.entrust _ _) => false
  | _ => true

def fall (p : Program) (handles : List Handle) (o : Fallout × World) : Program :=
  { world := o.2, handles, stranded := o.1.stranded ++ p.stranded }

def step (p : Program) : Move → Program
  | .act a =>
    { p with
      world := a.apply p.world
      handles := (a.made? p.world).toList ++ p.handles.diff a.spent?.toList }
  | .entrust handles owned held => { p with world := { p.world with owned, held }, handles }
  | .drop h => p.fall (p.handles.erase h) (p.world.drop h)
  | .release m => p.fall p.handles (p.world.release m)

/-- What a program can do. It uses up no handle but its own, none is lost when handles change hands,
and the process does not end. -/
def Allows (p : Program) : Move → Prop
  | .act a => IsPlain a ∧ a.Owned p.world p.handles
  | .entrust handles owned _ => (handles ++ owned.map Prod.snd).Perm p.existing
  | .drop h => h ∈ p.handles ∧ (p.world.drop h).1 ≠ .aborted
  | .release m => (p.world.release m).1 ≠ .aborted

instance (p : Program) : DecidablePred p.Allows
  | .act a => inferInstanceAs (Decidable (IsPlain a ∧ a.Owned p.world p.handles))
  | .entrust handles owned _ =>
    inferInstanceAs (Decidable ((handles ++ owned.map Prod.snd).Perm p.existing))
  | .drop h => inferInstanceAs (Decidable (h ∈ p.handles ∧ (p.world.drop h).1 ≠ .aborted))
  | .release m => inferInstanceAs (Decidable ((p.world.release m).1 ≠ .aborted))

def Fair (p : Program) : List Move → Prop
  | [] => True
  | m :: ms => p.Allows m ∧ (p.step m).Fair ms

instance decidableFair (p : Program) : (ms : List Move) → Decidable (p.Fair ms)
  | [] => .isTrue trivial
  | m :: ms =>
    have := (p.step m).decidableFair ms
    inferInstanceAs (Decidable (p.Allows m ∧ (p.step m).Fair ms))

def run (moves : List Move) : Program := moves.foldl step {}

def Concerns (p : Program) : Move → Prop
  | .act a => (a.made? p.world).isSome ∨ a.spent?.isSome
  | _ => True

def Move.spent? : Move → Option Handle
  | act a => a.spent?
  | drop h => some h
  | _ => none

def dropped (p : Program) : Move → List Handle
  | .drop h => [h]
  | .release m => (p.world.owned.filter (·.1 = m)).map Prod.snd
  | _ => []

variable {p : Program}

theorem owned_apply {a : Act} (plain : IsPlain a) (w : World) : (a.apply w).owned = w.owned := by
  have rewriting {r : Rooted} {w' w'' : World} (h : r.Rewrites w' w'') : w''.owned = w'.owned := by
    rcases h with rfl | ⟨m, rfl⟩
    · rfl
    · rfl
  cases a with
  | op o =>
    cases o with
    | unregister | entrust => cases plain
    | _ => rfl
  | trigger id =>
    rw [Act.apply, trigger_snd]
    rfl
  | keepCloneFrom k source =>
    rw [Act.apply, KeepAlive.cloneFrom]
    split
    · rfl
    · rfl
  | root | table => rfl
  | put m key value =>
    have inserted := rewriting (rewrites_insert m w key value)
    exact inserted
  | remove m key => exact rewriting (rewrites_erase m w key)
  | acquire | release | replace | push | pushToCell | acquireCell | releaseCell =>
    exact rewriting (Act.rewrites_apply rfl w)

structure Sound (p : Program) : Prop where
  orderly : ∀ id, (p.world.collector id).Orderly
  mirrors : Mirrors p.world.posting? p.listed

/-- What a move leads to, besides a program that is sound again. -/
structure Leads (p : Program) (m : Move) : Prop where
  sound : (p.step m).Sound
  same : p.Concerns m → ∀ h ∈ p.existing, h ∈ (p.step m).existing → m.spent? ≠ some h →
    (p.step m).world.posting? h.spot = p.world.posting? h.spot
  stranded : (p.step m).stranded = p.stranded ∨
    ∃ r busy, (p.step m).stranded = r :: p.stranded ∧
      Under p.world (p.dropped m) (.root r) busy ∧ r.collector ∈ busy

theorem leads_act (sound : p.Sound) {a : Act} (allowed : p.Allows (.act a)) : p.Leads (.act a) := by
  obtain ⟨plain, owned⟩ := allowed
  have own := owned_apply plain p.world
  have mine (h : Handle) (spent : a.spent? = some h) : h ∈ p.listed :=
    List.mem_append_left _ (List.mem_append_left _ (owned.mine h spent))
  have reposts := Act.reposts sound.orderly a owned.inside
    fun h spent => (sound.mirrors.mem_iff h).mp (mine h spent)
  have rest : p.listed.diff a.spent?.toList = p.handles.diff a.spent?.toList ++
      (p.world.owned.map Prod.snd ++ p.stranded.map .root) := by
    rw [listed, existing, List.append_assoc]
    cases spent : a.spent? with
    | none => rfl
    | some h =>
      simp only [Option.toList_some, List.diff_cons, List.diff_nil]
      exact List.erase_append_left _ (owned.mine h spent)
  have mirrors := sound.mirrors.reposts mine reposts
  refine ⟨⟨orderly_act sound.orderly a, ?_⟩, ?_, .inl rfl⟩
  · rw [rest] at mirrors
    simpa only [listed, existing, step, own, List.append_assoc] using mirrors
  · intro concerns h mem _ spent
    exact sound.mirrors.posting?_eq mine concerns reposts (List.mem_append_left _ mem) spent

theorem leads_entrust (sound : p.Sound) {handles : List Handle} {owned : List (MarkerId × Handle)}
    {held : List MarkerId} (allowed : p.Allows (.entrust handles owned held)) :
    p.Leads (.entrust handles owned held) := by
  refine ⟨⟨sound.orderly, ?_⟩, fun _ _ _ _ _ => rfl, .inl rfl⟩
  exact sound.mirrors.perm (allowed.symm.append_right _)

theorem leads_fall {m : Move} {handles : List Handle} {w : World} {ps : List Pending}
    (e : p.step m = p.fall handles (w.cascade .done ps)) (whole : (w.cascade .done ps).1 ≠ .aborted)
    (start : Falling.Sound p.world (p.dropped m) (handles ++ p.stranded.map Handle.root)
      ⟨w, .done, ps⟩) : p.Leads m := by
  have sound := start.cascade whole
  have perm : (Falling.listed ⟨(w.cascade .done ps).2, (w.cascade .done ps).1, []⟩ ++
      (handles ++ p.stranded.map Handle.root)).Perm
        (p.fall handles (w.cascade .done ps)).listed := by
    refine List.perm_iff_count.mpr fun h => ?_
    simp only [Falling.listed, listed, existing, fall, List.map_nil, List.nil_append,
      List.map_append, List.count_append]
    omega
  rw [← e] at perm
  refine ⟨⟨?_, ?_⟩, ?_, ?_⟩
  · rw [e]
    exact sound.orderly
  · have mirrors := sound.mirrors.perm perm
    rwa [e] at mirrors ⊢
  · intro _ h _ mem _
    have same := sound.same h (perm.mem_iff.mpr (List.mem_append_left _ mem))
    rwa [e]
  · rw [e, fall]
    cases out : (w.cascade .done ps).1 with
    | done | aborted => exact .inl rfl
    | panicked r =>
      rw [out] at sound
      obtain ⟨busy, under, inside⟩ := sound.stranded r (List.mem_singleton_self r)
      exact .inr ⟨r, busy, rfl, under, inside⟩

theorem leads_drop (sound : p.Sound) {h : Handle} (allowed : p.Allows (.drop h)) :
    p.Leads (.drop h) := by
  obtain ⟨mine, whole⟩ := allowed
  have perm : p.listed.Perm (Falling.listed ⟨p.world, .done, [⟨h, []⟩]⟩ ++
      (p.handles.erase h ++ p.stranded.map .root)) := by
    refine List.perm_iff_count.mpr fun g => ?_
    have first := (List.perm_cons_erase mine).count_eq g
    simp only [Falling.listed, listed, existing, Fallout.stranded, List.map_cons, List.map_nil,
      List.cons_append, List.count_append, List.count_cons, List.count_nil] at first ⊢
    omega
  refine leads_fall rfl whole ⟨sound.orderly, sound.mirrors.perm perm, fun _ _ => rfl,
    List.Subset.refl _, ?_, fun _ mem => absurd mem List.not_mem_nil⟩
  intro pending mem
  obtain rfl := List.mem_singleton.mp mem
  exact .top (List.mem_singleton_self h)

theorem leads_release (sound : p.Sound) {m : MarkerId} (allowed : p.Allows (.release m)) :
    p.Leads (.release m) := by
  have posted : (p.world.letGo m).2.posting? = p.world.posting? := by
    rw [letGo_snd]
    rfl
  have perm : p.listed.Perm (Falling.listed ⟨(p.world.letGo m).2, .done,
      (p.world.letGo m).1.map (⟨·, []⟩)⟩ ++ (p.handles ++ p.stranded.map .root)) := by
    refine List.perm_iff_count.mpr fun g => ?_
    have moved := (p.world.perm_letGo m).count_eq g
    simp only [Falling.listed, listed, existing, Fallout.stranded, List.map_map, Function.comp_def,
      List.map_id', List.map_nil, List.count_append, List.count_nil] at moved ⊢
    omega
  have step : p.step (.release m) = p.fall p.handles
      ((p.world.letGo m).2.cascade .done ((p.world.letGo m).1.map (⟨·, []⟩))) := rfl
  refine leads_fall step allowed ⟨?_, ?_, ?_, p.world.owned_letGo_subset m, ?_,
    fun _ mem => absurd mem List.not_mem_nil⟩
  · rw [letGo_snd]
    exact sound.orderly
  · rw [posted]
    exact sound.mirrors.perm perm
  · exact fun _ _ => congrFun posted _
  · intro pending mem
    obtain ⟨h, orphan, rfl⟩ := List.mem_map.mp mem
    refine .top (List.mem_map.mpr ⟨(m, h), ?_, rfl⟩)
    exact List.mem_filter.mpr ⟨mem_letGo orphan, by simp⟩

theorem leads (sound : p.Sound) {m : Move} (allowed : p.Allows m) : p.Leads m := by
  cases m with
  | act => exact leads_act sound allowed
  | entrust => exact leads_entrust sound allowed
  | drop => exact leads_drop sound allowed
  | release => exact leads_release sound allowed

theorem sound_empty : ({} : Program).Sound where
  orderly := orderly_run []
  mirrors := by
    refine ⟨List.nodup_nil, fun h => ⟨by rintro ⟨⟩, fun listed => ?_⟩⟩
    exact absurd (lt_size_of_pin? listed) (Nat.not_lt_zero _)

theorem sound_foldl (sound : p.Sound) {moves : List Move} (fair : p.Fair moves) :
    (moves.foldl step p).Sound := by
  induction moves generalizing p with
  | nil => exact sound
  | cons m moves ih => exact ih (leads sound fair.1).sound fair.2

theorem exists_play_eq_foldl (acts : List Act) (ops : List Op) :
    ∃ more, ops.foldl Op.apply (play acts) = play more := by
  refine ⟨acts ++ ops.map .op, ?_⟩
  rw [play, play, List.foldl_append, List.foldl_map]
  rfl

theorem exists_play_eq_run (moves : List Move) : ∃ acts, (run moves).world = play acts := by
  induction moves using List.reverseRecOn with
  | nil => exact ⟨[], rfl⟩
  | append_singleton moves m ih =>
    obtain ⟨acts, ih⟩ := ih
    rw [run, List.foldl_concat, ← run]
    cases m with
    | act a => exact ⟨acts ++ [a], by rw [play_concat, ← ih, step]⟩
    | entrust handles owned held =>
      exact ⟨acts ++ [.op (.entrust owned held)], by rw [play_concat, ← ih]; rfl⟩
    | drop h =>
      obtain ⟨ops, -, e⟩ := exists_ops_cascade (play acts) .done [⟨h, []⟩]
      rw [step, fall, ih, World.drop, e]
      exact exists_play_eq_foldl acts ops
    | release m =>
      obtain ⟨ops, -, e⟩ := exists_ops_release (play acts) m
      rw [step, fall, ih, e]
      exact exists_play_eq_foldl acts ops

theorem filterMap_kept?_listed (p : Program) (id : CollectorId) :
    p.listed.filterMap (Handle.kept? id) = p.existing.filterMap (Handle.kept? id) := by
  simp [listed, List.filterMap_append, List.filterMap_map, Handle.kept?, Function.comp_def]

theorem filterMap_key?_listed (p : Program) (id : CollectorId) {shelf : Shelf}
    (other : shelf ≠ .roots) :
    p.listed.filterMap (Handle.key? shelf id) = p.existing.filterMap (Handle.key? shelf id) := by
  simp [listed, List.filterMap_append, List.filterMap_map, Handle.key?, Handle.spot,
    Function.comp_def, other.symm]

/-- However handles are made, cloned, reassigned, passed on and given up, with what goes with them,
each collector has one entry for each handle of its own that exists. That of a keep-alive handle
holds its node. What is there besides is the entries of registrations that found their own root set
borrowed when they were dropped. A move that is about handles leaves the entries of all others as
they are, and strands a registration only if that lies below one of the same collector. -/
theorem registries_mirror_handles (moves : List Move) (fair : Fair {} moves) :
    (∀ id,
      ((run moves).world.collector id).keepAlive.entries.Perm
        ((run moves).existing.filterMap (Handle.kept? id)) ∧
      (((run moves).world.collector id).weakRefs.entries.map Prod.fst).Perm
        ((run moves).existing.filterMap (Handle.key? .weakRefs id)) ∧
      (((run moves).world.collector id).weakMaps.entries.map Prod.fst).Perm
        ((run moves).existing.filterMap (Handle.key? .weakMaps id)) ∧
      (((run moves).world.collector id).roots.entries.map Prod.fst).Perm
        (((run moves).existing ++ (run moves).stranded.map Handle.root).filterMap
          (Handle.key? .roots id))) ∧
    ∀ m, (run moves).Allows m →
      ((run moves).Concerns m → ∀ h ∈ (run moves).existing, h ∈ ((run moves).step m).existing →
        m.spent? ≠ some h →
          ((run moves).step m).world.posting? h.spot = (run moves).world.posting? h.spot) ∧
      (((run moves).step m).stranded = (run moves).stranded ∨
        ∃ r busy, ((run moves).step m).stranded = r :: (run moves).stranded ∧
          Under (run moves).world ((run moves).dropped m) (.root r) busy ∧ r.collector ∈ busy) := by
  have sound : (run moves).Sound := sound_foldl sound_empty fair
  generalize run moves = p at sound ⊢
  have mirrors := sound.mirrors
  constructor
  · intro id
    refine ⟨?_, ?_, ?_, mirrors.perm_keys fun _ => rfl⟩
    · rw [← filterMap_kept?_listed]
      exact mirrors.perm_keepAlive id
    · rw [← filterMap_key?_listed p id (by decide)]
      exact mirrors.perm_keys fun _ => rfl
    · rw [← filterMap_key?_listed p id (by decide)]
      exact mirrors.perm_keys fun _ => rfl
  · intro m allowed
    obtain ⟨-, same, stranded⟩ := leads sound allowed
    exact ⟨same, stranded⟩

/-- Of two keep-alive handles in one collector, one is made to pin another node, and a handle of the
other collector then pins what this one does. A weak reference is cloned and dropped. A rooted value
of the first collector comes to own a keep-alive handle and a rooted value of the second, and that
owns one of the first. -/
def lending : List Move :=
  [.act (.op (.create {})), .act (.op (.create {})), .act (.op (.intern 0 "a")),
    .act (.op (.intern 0 "b")), .act (.op (.keep 0 ⟨0, 0⟩)), .act (.op (.keep 0 ⟨0, 0⟩)),
    .act (.op (.keep 1 ⟨0, 0⟩)), .act (.op (.keepSet ⟨0, ⟨0, 1⟩, ⟨0, 0⟩⟩ ⟨1, 0⟩)),
    .act (.keepCloneFrom ⟨1, ⟨0, 1⟩, ⟨0, 0⟩⟩ ⟨0, ⟨0, 1⟩, ⟨1, 0⟩⟩), .act (.op (.weak 0 ⟨0, 0⟩)),
    .act (.op (.weakClone ⟨0, ⟨0, 1⟩⟩)), .drop (.weak ⟨0, ⟨0, 1⟩⟩), .act (.op (.map 1)),
    .act (.root 0 default), .act (.root 1 default), .act (.root 0 default), .act (.trigger 0),
    .entrust [.root ⟨0, ⟨0, 1⟩⟩, .map ⟨1, ⟨0, 1⟩⟩, .weak ⟨0, ⟨1, 1⟩⟩, .keep ⟨0, ⟨1, 1⟩, ⟨0, 0⟩⟩,
        .keep ⟨0, ⟨2, 1⟩, ⟨1, 0⟩⟩]
      [(0, .keep ⟨0, ⟨0, 1⟩, ⟨1, 0⟩⟩), (0, .root ⟨1, ⟨0, 1⟩⟩), (1, .root ⟨0, ⟨1, 1⟩⟩)] []]

theorem registries_mirror_handles_lent :
    ((run lending).world.collector 0).keepAlive.entries.Perm
        [(⟨1, 1⟩, ⟨0, 0⟩), (⟨2, 1⟩, ⟨1, 0⟩), (⟨0, 1⟩, ⟨1, 0⟩)] ∧
      ((run lending).world.collector 1).keepAlive.entries.Perm [] ∧
      (((run lending).world.collector 0).weakRefs.entries.map Prod.fst).Perm [⟨1, 1⟩] ∧
      (((run lending).world.collector 1).weakMaps.entries.map Prod.fst).Perm [⟨0, 1⟩] ∧
      (((run lending).world.collector 0).roots.entries.map Prod.fst).Perm [⟨0, 1⟩, ⟨1, 1⟩] ∧
      ((run lending).step (.drop (.root ⟨0, ⟨0, 1⟩⟩))).world.posting? ⟨0, .keepAlive, ⟨2, 1⟩⟩ =
        (run lending).world.posting? ⟨0, .keepAlive, ⟨2, 1⟩⟩ ∧
      ∃ busy, Under (run lending).world [.root ⟨0, ⟨0, 1⟩⟩] (.root ⟨0, ⟨1, 1⟩⟩) busy ∧ 0 ∈ busy := by
  have existing : (run lending).existing =
      [.root ⟨0, ⟨0, 1⟩⟩, .map ⟨1, ⟨0, 1⟩⟩, .weak ⟨0, ⟨1, 1⟩⟩, .keep ⟨0, ⟨1, 1⟩, ⟨0, 0⟩⟩,
        .keep ⟨0, ⟨2, 1⟩, ⟨1, 0⟩⟩, .keep ⟨0, ⟨0, 1⟩, ⟨1, 0⟩⟩, .root ⟨1, ⟨0, 1⟩⟩,
        .root ⟨0, ⟨1, 1⟩⟩] := by decide +kernel
  have none : (run lending).stranded = [] := by decide +kernel
  have one : ((run lending).step (.drop (.root ⟨0, ⟨0, 1⟩⟩))).stranded = [⟨0, ⟨1, 1⟩⟩] := by
    decide +kernel
  obtain ⟨mirrored, moved⟩ := registries_mirror_handles lending (by decide +kernel)
  obtain ⟨others, stranded⟩ := moved (.drop (.root ⟨0, ⟨0, 1⟩⟩)) (by decide +kernel)
  rw [existing, none] at mirrored
  rw [one, none] at stranded
  obtain ⟨keeps, weaks, -, roots⟩ := mirrored 0
  obtain ⟨kept, -, maps, -⟩ := mirrored 1
  refine ⟨keeps, kept, weaks, maps, roots, ?_, ?_⟩
  · apply others trivial (.keep ⟨0, ⟨2, 1⟩, ⟨1, 0⟩⟩)
    · decide +kernel
    · decide +kernel
    · decide
  · rcases stranded with ⟨⟨⟩⟩ | ⟨r, busy, ⟨⟩, under, inside⟩
    exact ⟨busy, under, inside⟩

/-- A rooted value owns another one of the same collector, and is dropped. -/
def nesting : List Move :=
  [.act (.op (.create {})), .act (.root 0 default), .act (.root 0 default),
    .entrust [.root ⟨0, ⟨1, 1⟩⟩] [(1, .root ⟨0, ⟨0, 1⟩⟩)] [], .drop (.root ⟨0, ⟨1, 1⟩⟩)]

theorem root_outlives_handle :
    Fair {} nesting ∧ (run nesting).existing = [] ∧
      ((run nesting).world.collector 0).roots.entries.map Prod.fst = [⟨0, 1⟩] ∧
      ¬(((run nesting).world.collector 0).roots.entries.map Prod.fst).Perm
        ((run nesting).existing.filterMap (Handle.key? .roots 0)) := by
  decide +kernel

end Program

end MarkSweep

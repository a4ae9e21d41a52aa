import MarkSweep.Derive.Setting
import MarkSweep.Proofs.Derive.Reader
import Mathlib.Data.List.Forall2

namespace MarkSweep.Derive

/-- Entries with commas between them. `Entry ts a rest` says that the trees begin with an entry that
means `a`, and that the others follow it. -/
inductive Entries {α : Type} (Entry : List Tree → α → List Tree → Prop) : List Tree → List α → Prop
  | none : Entries Entry [] []
  | last {ts : List Tree} {a : α} : Entry ts a [] → Entries Entry ts [a]
  | more {ts rest : List Tree} {a : α} {as : List α} {joint : Bool} :
      Entry ts a (.leaf (.mark ',' joint) :: rest) → Entries Entry rest as →
      Entries Entry ts (a :: as)

inductive SkipEntry : List Tree → Unit → List Tree → Prop
  | intro {rest : List Tree} : SkipEntry (.leaf (.name "skip") :: rest) () rest

inductive RootEntry : List Tree → List Word → List Tree → Prop
  | intro {joint : Bool} {ts : List Tree} {p : Reader.Path} {d : Cursor} :
      (Reader.path (Reader.nestedIn ts) false).run { trees := ts } = .ok (p, d) →
      d.unread = .none →
      RootEntry (.leaf (.name "crate") :: .leaf (.mark '=' joint) :: ts) d.words.reverse d.trees

def Attribute.Lists {α : Type} (Entry : List Tree → α → List Tree → Prop) (a : Attribute)
    (as : List α) : Prop :=
  ∃ d ts, a.argument = .list d ts ∧ Entries Entry ts as

namespace Reader

variable {α : Type} {c d e : Cursor}

theorem atMark_iff_of_toList {text : String} {m : Char} (single : text.toList = [m])
    {ts : List Tree} : atMark text ts ↔ ∃ joint rest, ts = .leaf (.mark m joint) :: rest := by
  rw [atMark, single]
  match ts with
  | [] | .group _ _ :: _
  | .leaf (.name _) :: _ | .leaf (.lifetime _) :: _ | .leaf (.literal _) :: _ =>
    simp [afterMark?]
  | .leaf (.mark m' joint) :: rest =>
    by_cases same : m = m' <;> simp [afterMark?, same, eq_comm]

theorem atMark_comma_iff {ts : List Tree} :
    atMark "," ts ↔ ∃ joint rest, ts = .leaf (.mark ',' joint) :: rest :=
  atMark_iff_of_toList rfl

theorem atMark_equals_iff {ts : List Tree} :
    atMark "=" ts ↔ ∃ joint rest, ts = .leaf (.mark '=' joint) :: rest :=
  atMark_iff_of_toList rfl

theorem run_settingPath_of_name {name : String} {rest : List Tree}
    (trees : c.trees = .leaf (.name name) :: rest) (ends : atMark "::" rest = false) :
    settingPath.run c = .ok ((), { c with trees := rest, words := (name : Word) :: c.words }) := by
  have start : atMark "::" c.trees = false := by rw [trees]; rfl
  have stands : atAnyName c.trees = true := by rw [trees]; rfl
  simp [settingPath, run_bind, run_mark?_of_not_atMark, start, stands, repeatWhile, repeatAtMost,
    run_anyName_of_trees trees, ends, Except.bind, Except.map]

theorem exists_of_atAnyName {ts : List Tree} (stands : atAnyName ts = true) :
    ∃ name rest, ts = .leaf (.name name) :: rest := by
  match ts with
  | .leaf (.name name) :: rest => exact ⟨name, rest, rfl⟩

theorem eq_of_run_settingPath {name : String} (mark : name ≠ "::") (fresh : c.words = [])
    (h : settingPath.run c = .ok ((), d)) (alone : d.words = [(name : Word)]) :
    ∃ rest, c.trees = .leaf (.name name) :: rest ∧ atMark "::" rest = false ∧
      d = { c with trees := rest, words := [(name : Word)] } := by
  rw [settingPath, run_bind_eq_ok] at h
  obtain ⟨_, e, leading, h⟩ := h
  -- a mark before the name or behind it would have left a word
  cases start : atMark "::" c.trees with
  | true =>
    rw [run_discard, run_mark?_of_atMark start] at leading
    obtain ⟨-, rfl⟩ := Prod.mk.inj (Except.ok.inj leading)
    have kept := (precedes_of_run h).words
    rw [alone, fresh] at kept
    have same := List.cons.inj (kept.eq_of_length rfl)
    exact absurd (Word.mk.inj same.1).1.symm mark
  | false =>
    rw [run_discard, run_mark?_of_not_atMark start] at leading
    obtain ⟨-, rfl⟩ := Prod.mk.inj (Except.ok.inj leading)
    cases stands : atAnyName c.trees with
    | false =>
      rw [run_bind, run_trees] at h
      simp only [Except.bind, stands, Bool.false_eq_true, if_false] at h
      split at h
      · cases h
      · split at h <;> cases h
    | true =>
      obtain ⟨text, rest, trees⟩ := exists_of_atAnyName stands
      simp only [run_bind, run_trees, Except.bind, stands, repeatWhile, repeatAtMost,
        run_discard, run_anyName_of_trees trees, Except.map, if_true] at h
      cases behind : atMark "::" rest with
      | true =>
        rw [run_mark?_of_atMark behind] at h
        have short := (precedes_of_run h).words.length_le
        simp [alone, fresh] at short
      | false =>
        rw [run_mark?_of_not_atMark behind] at h
        obtain ⟨-, rfl⟩ := Prod.mk.inj (Except.ok.inj h)
        simp only [fresh, List.cons.injEq, Word.mk.injEq, and_true] at alone
        exact ⟨rest, by rw [trees, alone], behind, by rw [fresh, alone]⟩

theorem run_entry_eq_ok {setting : List Word → Reader α} {name : String} {a : α}
    (mark : name ≠ "::")
    (known : ∀ path c a d, (setting path).run c = .ok (a, d) → path = Word.plain [name]) :
    (entry setting).run c = .ok (a, d) ↔
      ∃ rest, c.trees = .leaf (.name name) :: rest ∧ atMark "::" rest = false ∧
        (setting (Word.plain [name])).run
          { c with trees := rest, words := (name : Word) :: c.words } = .ok (a, d) := by
  rw [entry, run_bind_eq_ok]
  simp only [run_noting]
  constructor
  · rintro ⟨⟨u, path⟩, e, read, h⟩
    obtain rfl := known _ _ _ _ h
    cases named : settingPath.run { c with words := [] } with
    | error e => simp [named, Except.map] at read
    | ok x =>
      obtain ⟨⟨⟩, f⟩ := x
      rw [named] at read
      obtain ⟨same, rfl⟩ := Prod.mk.inj (Except.ok.inj read)
      have alone : f.words = [(name : Word)] :=
        List.reverse_eq_iff.mp (Prod.mk.inj same).2
      obtain ⟨rest, trees, ends, rfl⟩ := eq_of_run_settingPath mark rfl named alone
      exact ⟨rest, trees, ends, h⟩
  · rintro ⟨rest, trees, ends, h⟩
    have named := run_settingPath_of_name (c := { c with words := [] }) trees ends
    exact ⟨((), Word.plain [name]), _, by rw [named]; rfl, h⟩

def Ends (rest : List Tree) : Prop := rest = [] ∨ atMark "," rest

theorem Ends.not_atMark {rest : List Tree} (ends : Ends rest) : atMark "::" rest = false := by
  rcases ends with rfl | comma
  · rfl
  · obtain ⟨joint, rest, rfl⟩ := atMark_comma_iff.mp comma
    cases joint <;> rfl

/-- The reader of a setting reads the entries that `Entry` tells of, and no others. -/
structure Settles (setting : List Word → Reader α) (Entry : List Tree → α → List Tree → Prop) :
    Prop where
  reads : ∀ {c a rest}, Ends rest → ((∃ d, (entry setting).run c = .ok (a, d) ∧ d.unread = none ∧
    d.trees = rest) ↔ c.unread = none ∧ Entry c.trees a rest)
  shorter : ∀ {ts a rest}, Entry ts a rest → rest.length < ts.length

theorem settles_skip : Settles skipSetting SkipEntry where
  reads {c a rest} ends := by
    have known : ∀ path c a d, (skipSetting path).run c = .ok (a, d) →
        path = Word.plain ["skip"] := by
      intro path c a d h
      by_contra other
      simp [skipSetting, other] at h
    simp only [run_entry_eq_ok (by decide) known]
    constructor
    · rintro ⟨d, ⟨rest', trees, -, h⟩, unread, rfl⟩
      obtain ⟨-, rfl⟩ := Prod.mk.inj (Except.ok.inj h)
      rw [trees]
      exact ⟨unread, .intro⟩
    · rintro ⟨unread, skip⟩
      generalize trees : c.trees = ts at skip
      obtain ⟨⟩ := skip
      exact ⟨_, ⟨rest, rfl, ends.not_atMark, rfl⟩, unread, rfl⟩
  shorter skip := by
    cases skip
    exact Nat.lt_succ_self _

theorem run_rootSetting_eq_ok {p : List Word} :
    (rootSetting (Word.plain ["crate"])).run c = .ok (p, d) ↔
      ∃ joint ts q e, c.trees = .leaf (.mark '=' joint) :: ts ∧
        (path (nestedIn ts) false).run { c with trees := ts, words := [] } = .ok (q, e) ∧
        p = e.words.reverse ∧ d = { e with words := e.words ++ ("=" : Word) :: c.words } := by
  have run_of_trees {joint : Bool} {ts : List Tree}
      (trees : c.trees = .leaf (.mark '=' joint) :: ts) :
      (rootSetting (Word.plain ["crate"])).run c =
        ((path (nestedIn ts) false).run { c with trees := ts, words := [] }).map fun x =>
          (x.2.words.reverse, { x.2 with words := x.2.words ++ ("=" : Word) :: c.words }) := by
    have equals : atMark "=" c.trees := atMark_equals_iff.mpr ⟨joint, ts, trees⟩
    have behind : c.trees.drop "=".length = ts := by rw [trees]; rfl
    simp only [rootSetting, if_true, run_bind, run_mark, equals, run_trees, Except.bind, behind,
      run_noting]
    cases (path (nestedIn ts) false).run { c with trees := ts, words := [] } <;> rfl
  constructor
  · intro h
    have equals : atMark "=" c.trees := by
      by_contra missing
      simp [rootSetting, run_bind, run_mark, missing, Except.bind] at h
    obtain ⟨joint, ts, trees⟩ := atMark_equals_iff.mp equals
    rw [run_of_trees trees] at h
    cases read : (path (nestedIn ts) false).run { c with trees := ts, words := [] } with
    | error e => simp [read, Except.map] at h
    | ok x =>
      rw [read] at h
      obtain ⟨rfl, rfl⟩ := Prod.mk.inj (Except.ok.inj h)
      exact ⟨joint, ts, x.1, x.2, trees, read, rfl, rfl⟩
  · rintro ⟨joint, ts, q, e, trees, read, rfl, rfl⟩
    rw [run_of_trees trees, read]
    rfl

theorem settles_root : Settles rootSetting RootEntry where
  reads {c p rest} ends := by
    have known : ∀ path c p d, (rootSetting path).run c = .ok (p, d) →
        path = Word.plain ["crate"] := by
      intro path c p d h
      by_contra other
      simp [rootSetting, other, run_bind, Except.bind] at h
    simp only [run_entry_eq_ok (by decide) known, run_rootSetting_eq_ok]
    constructor
    · rintro ⟨_, ⟨_, trees, -, joint, ts, q, e, rfl, read, rfl, rfl⟩, unread, rfl⟩
      have fresh : c.unread = none := by
        by_contra noted
        have later := (precedes_of_run read).unread (Option.isSome_iff_ne_none.mpr noted)
        simp [show e.unread = none from unread] at later
      rw [fresh] at read
      rw [trees]
      exact ⟨fresh, .intro read unread⟩
    · rintro ⟨fresh, root⟩
      generalize trees : c.trees = us at root
      obtain @⟨joint, ts, q, e, read, unread⟩ := root
      rw [← fresh] at read
      exact ⟨_, ⟨_, rfl, by cases joint <;> rfl, joint, ts, q, e, rfl, read, rfl, rfl⟩, unread, rfl⟩
  shorter root := by
    obtain @⟨joint, ts, q, e, read, -⟩ := root
    have taken : e.trees.length ≤ ts.length := (precedes_of_run read).trees.length_le
    simp only [List.length_cons]
    omega

theorem run_comma_eq_ok {u : Unit} : (mark ",").run c = .ok (u, d) ↔
    ∃ joint rest, c.trees = .leaf (.mark ',' joint) :: rest ∧
      d = { c with trees := rest, words := ("," : Word) :: c.words } := by
  rw [run_mark]
  constructor
  · intro h
    split at h
    case isFalse => cases h
    case isTrue comma =>
      obtain ⟨joint, rest, trees⟩ := atMark_comma_iff.mp comma
      obtain ⟨-, rfl⟩ := Prod.mk.inj (Except.ok.inj h)
      exact ⟨joint, rest, trees, by rw [trees]; rfl⟩
  · rintro ⟨joint, rest, trees, rfl⟩
    rw [if_pos (atMark_comma_iff.mpr ⟨joint, rest, trees⟩), trees]
    rfl

variable {setting : List Word → Reader α} {Entry : List Tree → α → List Tree → Prop}
  {n : Nat} {as : List α}

theorem exhausts_settingsAtMost_of_nil (done : c.trees = []) :
    Exhausts (settingsAtMost setting n) c as ↔ c.unread = none ∧ as = [] := by
  cases n <;> simp [settingsAtMost, exhausts_trees_bind, exhausts_pure, done]

theorem exhausts_settingsAtMost_of_ne_nil (more : c.trees ≠ []) :
    Exhausts (settingsAtMost setting (n + 1)) c as ↔
      ∃ a e, (entry setting).run c = .ok (a, e) ∧
        (e.trees = [] ∧ e.unread = none ∧ as = [a] ∨
        ∃ joint rest as', e.trees = .leaf (.mark ',' joint) :: rest ∧
          Exhausts (settingsAtMost setting n)
            { e with trees := rest, words := ("," : Word) :: e.words } as' ∧ as = a :: as') := by
  have left : c.trees.isEmpty = false := by simpa using more
  rw [settingsAtMost, exhausts_trees_bind, left, if_neg Bool.false_ne_true, exhausts_bind]
  refine exists_congr fun a => exists_congr fun e => and_congr_right fun _ => ?_
  rw [exhausts_trees_bind]
  cases trees : e.trees with
  | nil => simp [exhausts_pure, trees]
  | cons t ts =>
    rw [List.isEmpty_cons, if_neg Bool.false_ne_true, exhausts_bind]
    simp only [run_comma_eq_ok, exhausts_bind_pure, trees]
    constructor
    · rintro ⟨_, _, ⟨joint, rest, same, rfl⟩, as', others, rfl⟩
      exact .inr ⟨joint, rest, as', same, others, rfl⟩
    · rintro (⟨none, -⟩ | ⟨joint, rest, as', same, others, rfl⟩)
      · cases none
      · exact ⟨(), _, ⟨joint, rest, same, rfl⟩, as', others, rfl⟩

namespace Settles

variable (settles : Settles setting Entry)

include settles

theorem entries_nil_iff : Entries Entry [] as ↔ as = [] := by
  constructor
  · intro entries
    cases entries with
    | none => rfl
    | last entry => exact absurd (settles.shorter entry) (Nat.not_lt_zero _)
    | more entry _ => exact absurd (settles.shorter entry) (Nat.not_lt_zero _)
  · rintro rfl
    exact .none

theorem exhausts_settingsAtMost_iff (enough : c.trees.length ≤ n) :
    Exhausts (settingsAtMost setting n) c as ↔ c.unread = none ∧ Entries Entry c.trees as := by
  induction n generalizing c as with
  | zero =>
    have done : c.trees = [] := List.length_eq_zero_iff.mp (Nat.le_zero.mp enough)
    rw [exhausts_settingsAtMost_of_nil done, done, settles.entries_nil_iff]
  | succ n ih =>
    by_cases done : c.trees = []
    · rw [exhausts_settingsAtMost_of_nil done, done, settles.entries_nil_iff]
    rw [exhausts_settingsAtMost_of_ne_nil done]
    -- either way an entry ends where nothing follows or a comma does, as its reader asks
    constructor
    · rintro ⟨a, e, read, ⟨last, unread, rfl⟩ | ⟨joint, rest, as', trees, h, rfl⟩⟩
      · obtain ⟨fresh, entry⟩ := (settles.reads (.inl rfl)).mp ⟨e, read, unread, last⟩
        exact ⟨fresh, .last entry⟩
      · have shorter : rest.length ≤ n := by
          have taken := (precedes_of_run read).trees.length_le
          rw [trees, List.length_cons] at taken
          omega
        obtain ⟨unread, entries⟩ := (ih shorter).mp h
        obtain ⟨fresh, entry⟩ := (settles.reads
          (.inr (atMark_comma_iff.mpr ⟨joint, rest, rfl⟩))).mp ⟨e, read, unread, trees⟩
        exact ⟨fresh, .more entry entries⟩
    · rintro ⟨fresh, entries⟩
      generalize trees : c.trees = ts at entries
      cases entries with
      | none => exact absurd trees done
      | last entry =>
        obtain ⟨e, read, unread, last⟩ := (settles.reads (.inl rfl)).mpr ⟨fresh, trees ▸ entry⟩
        exact ⟨_, e, read, .inl ⟨last, unread, rfl⟩⟩
      | @more _ rest a as joint entry entries =>
        obtain ⟨e, read, unread, behind⟩ := (settles.reads
          (.inr (atMark_comma_iff.mpr ⟨joint, rest, rfl⟩))).mpr ⟨fresh, trees ▸ entry⟩
        have shorter : rest.length ≤ n := by
          have taken := settles.shorter entry
          rw [List.length_cons, ← trees] at taken
          omega
        exact ⟨a, e, read, .inr ⟨joint, rest, as, behind, (ih shorter).mpr ⟨unread, entries⟩, rfl⟩⟩

theorem exhausts_settings_iff :
    Exhausts (Reader.settings setting) c as ↔ c.unread = none ∧ Entries Entry c.trees as := by
  rw [Reader.settings, exhausts_trees_bind]
  exact settles.exhausts_settingsAtMost_iff (Nat.le_refl _)

theorem settings_eq_ok_iff {a : Attribute} :
    a.settings setting = .ok as ↔ a.Lists Entry as := by
  rw [Attribute.settings, Attribute.Lists]
  match a.argument with
  | .none => simp
  | .value => simp
  | .list delimiter ts =>
    have exhausts : Exhausts (Reader.settings setting) { trees := ts } as ↔ Entries Entry ts as :=
      settles.exhausts_settings_iff.trans (and_iff_right rfl)
    simp only [Argument.list.injEq, existsAndEq, true_and]
    rw [← exhausts]
    constructor
    · intro h
      cases read : (whole (Reader.settings setting)).run { trees := ts } with
      | error e => simp [read] at h
      | ok x =>
        obtain ⟨as', d⟩ := x
        rw [read] at h
        obtain rfl := Except.ok.inj h
        exact ⟨d, run_whole_eq_ok.mp read⟩
    · rintro ⟨d, finished⟩
      rw [run_whole_eq_ok.mpr finished]
      rfl

end Settles

end Reader

end MarkSweep.Derive

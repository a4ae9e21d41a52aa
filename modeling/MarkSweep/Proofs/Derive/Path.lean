import MarkSweep.Proofs.Derive.Attribute

namespace MarkSweep.Derive

namespace Reader

variable {c : Cursor} {text : String} {names : List String} {ts rest : List Tree}
  {words : List Word}

def IsSegment (text : String) : Prop :=
  text ∉ keywords ∨ text ∈ ["super", "self", "crate", "try", "Self"]

inductive Joined : List String → List Tree → List Tree → Prop
  | nil {rest : List Tree} : Joined [] rest rest
  | cons {joint : Bool} {text : String} {names : List String} {ts rest : List Tree} :
      IsSegment text → Joined names ts rest →
      Joined (text :: names)
        (.leaf (.mark ':' true) :: .leaf (.mark ':' joint) :: .leaf (.name text) :: ts) rest

def joinedWords (names : List String) : List Word :=
  Word.plain (names.flatMap fun name => ["::", name])

/-- A path whose names have no arguments. -/
inductive PlainPath : List Tree → List Word → List Tree → Prop
  | leading {names : List String} {ts rest : List Tree} :
      Joined names ts rest → names ≠ [] → PlainPath ts (joinedWords names) rest
  | bare {text : String} {names : List String} {ts rest : List Tree} :
      IsSegment text → Joined names ts rest →
      PlainPath (.leaf (.name text) :: ts) ((text : Word) :: joinedWords names) rest

theorem atAnyWord_iff_of_trees {texts : List String} :
    atAnyWord texts (.leaf (.name text) :: rest) = true ↔ text ∈ texts := by
  simp [atAnyWord, atWord]

theorem run_name_of_trees (trees : c.trees = .leaf (.name text) :: rest) (free : text ∉ keywords) :
    name.run c = .ok (text, { c with trees := rest, words := (text : Word) :: c.words }) := by
  simp [name, run_bind, Except.bind, trees, free]

theorem run_nameOr_of_trees (segment : IsSegment text)
    (trees : c.trees = .leaf (.name text) :: rest)
    (special : text ∉ ["super", "self", "crate", "try"]) : (nameOr ["Self"]).run c =
      .ok (text, { c with trees := rest, words := (text : Word) :: c.words }) := by
  rw [nameOr, run_bind, run_trees]
  simp only [Except.bind, trees, atAnyWord_iff_of_trees]
  split
  case isTrue => exact run_anyName_of_trees trees
  case isFalse other =>
    refine run_name_of_trees trees (segment.resolve_right fun mem => ?_)
    simp_all

def EndsName (rest : List Tree) : Prop :=
  atMarkNot "<" ["<="] rest = false ∧ (atMark "::" rest && atMark "<" rest.tail.tail) = false

theorem run_segment (segment : IsSegment text)
    (trees : c.trees = .leaf (.name text) :: rest) (ends : EndsName rest) (within : Within) :
    (Reader.segment within false).run c =
      .ok ((text, false), { c with trees := rest, words := (text : Word) :: c.words }) := by
  obtain ⟨bare, apart⟩ := ends
  by_cases special : text ∈ ["super", "self", "crate", "try"]
  · simp [Reader.segment, run_bind, trees, atAnyWord_iff_of_trees.mpr special, Except.bind,
      run_anyName_of_trees trees]
  · have other : atAnyWord ["super", "self", "crate", "try"] c.trees = false := by
      rw [trees, Bool.eq_false_iff, ne_eq, atAnyWord_iff_of_trees]
      exact special
    have named := run_nameOr_of_trees segment trees special
    rw [Reader.segment, run_bind, run_trees]
    simp only [Except.bind, other, Bool.false_eq_true, if_false, run_bind, named, run_trees, bare,
      apart, Bool.and_false, Bool.or_false, run_pure]

theorem Ends.endsName (ends : Ends rest) : EndsName rest := by
  rcases ends with rfl | comma
  · exact ⟨rfl, rfl⟩
  · obtain ⟨joint, rest, rfl⟩ := atMark_comma_iff.mp comma
    cases joint <;> exact ⟨rfl, rfl⟩

theorem Joined.endsName (joined : Joined names ts rest)
    (ends : Ends rest) : EndsName ts := by
  cases joined with
  | nil => exact ends.endsName
  | @cons joint => cases joint <;> exact ⟨rfl, rfl⟩

theorem Joined.run (joined : Joined names ts rest)
    (ends : Ends rest) (within : Within) {n : Nat} (enough : names.length ≤ n)
    (trees : c.trees = ts) :
    (manyAtMost pathGoesOn (do mark "::"; segment within false) n).run c =
      .ok (names.map (·, false),
        { c with trees := rest, words := (joinedWords names).reverse ++ c.words }) := by
  induction joined generalizing c n with
  | nil =>
    have stop : pathGoesOn c.trees = false := by simp [pathGoesOn, trees, ends.not_atMark]
    cases n with
    | zero => simp [manyAtMost, joinedWords, Word.plain, ← trees]
    | succ n => simp [manyAtMost, run_bind, Except.bind, stop, joinedWords, Word.plain, ← trees]
  | @cons joint text names ts rest segment joined ih =>
    cases n with
    | zero => cases enough
    | succ n =>
      have more : pathGoesOn c.trees = true := by rw [trees]; cases joint <;> rfl
      have stands : atMark "::" c.trees = true := by rw [trees]; cases joint <;> rfl
      have behind : c.trees.drop "::".length = .leaf (.name text) :: ts := by rw [trees]; rfl
      have named := run_segment
        (c := { c with trees := .leaf (.name text) :: ts, words := "::" :: c.words }) segment rfl
        (joined.endsName ends) within
      have others := ih ends (Nat.le_of_succ_le_succ enough)
        (c := { c with trees := ts, words := text :: "::" :: c.words }) rfl
      simp only [manyAtMost, run_bind, run_trees, Except.bind, more, run_mark, stands, behind,
        named, others, if_true]
      simp [joinedWords, Word.plain]

theorem Joined.length_le (joined : Joined names ts rest) : names.length ≤ ts.length := by
  induction joined with
  | nil => exact Nat.zero_le _
  | cons _ _ ih =>
    simp only [List.length_cons]
    omega

theorem run_segments (segment : IsSegment text) (joined : Joined names ts rest)
    (ends : Ends rest) (within : Within) (trees : c.trees = .leaf (.name text) :: ts) :
    (segments within false pathGoesOn).run c = .ok ((text :: names).map (·, false),
      { c with
        trees := rest
        words := (joinedWords names).reverse ++ (text : Word) :: c.words }) := by
  have named := run_segment segment trees (joined.endsName ends) within
  have others := joined.run (c := { c with trees := ts, words := text :: c.words }) ends within
    joined.length_le rfl
  simp only [segments, many, run_bind, run_trees, Except.bind, named, others, run_pure,
    List.map_cons]

theorem PlainPath.run (plain : PlainPath ts words rest)
    (ends : Ends rest) (within : Within) (trees : c.trees = ts) :
    ∃ p, (path within false).run c =
      .ok (p, { c with trees := rest, words := words.reverse ++ c.words }) := by
  cases plain with
  | @bare text names ts rest segment joined =>
    have start : atMark "::" c.trees = false := by rw [trees]; rfl
    have read := run_segments segment joined ends within trees
    refine ⟨⟨false, false, (text :: names).map (·, false)⟩, ?_⟩
    simp only [path, run_bind, run_mark?_of_not_atMark start, Except.bind, read, run_pure]
    simp
  | @leading names ts rest joined some =>
    cases joined with
    | nil => exact absurd rfl some
    | @cons joint text names ts rest segment joined =>
      have start : atMark "::" c.trees = true := by rw [trees]; cases joint <;> rfl
      have behind : c.trees.drop "::".length = .leaf (.name text) :: ts := by rw [trees]; rfl
      have read := run_segments
        (c := { c with trees := .leaf (.name text) :: ts, words := "::" :: c.words }) segment joined
        ends within rfl
      refine ⟨⟨false, true, (text :: names).map (·, false)⟩, ?_⟩
      simp only [path, run_bind, run_mark?_of_atMark start, behind, Except.bind, read, run_pure]
      simp [joinedWords, Word.plain]

end Reader

variable {ts rest : List Tree} {words : List Word}

theorem rootEntry_iff_of_plainPath {joint : Bool} {others : List Tree} {root : List Word}
    (plain : Reader.PlainPath ts words rest) (ends : Reader.Ends rest) :
    RootEntry (.leaf (.name "crate") :: .leaf (.mark '=' joint) :: ts) root others ↔
      root = words ∧ others = rest := by
  obtain ⟨p, read⟩ := plain.run (c := { trees := ts }) ends (Reader.nestedIn ts) rfl
  constructor
  · intro entry
    obtain @⟨_, _, _, _, read', -⟩ := entry
    obtain ⟨rfl, rfl⟩ := Prod.mk.inj (Except.ok.inj (read.symm.trans read'))
    simp
  · rintro ⟨rfl, rfl⟩
    have entry : RootEntry (_ :: .leaf (.mark '=' joint) :: ts) _ _ := .intro read rfl
    simpa using entry

theorem Attribute.lists_of_plainPath {a : Attribute} {d : Delimiter} {joint : Bool}
    (argument : a.argument = .list d (.leaf (.name "crate") :: .leaf (.mark '=' joint) :: ts))
    (plain : Reader.PlainPath ts words []) : a.Lists RootEntry [words] :=
  ⟨d, _, argument, .last ((rootEntry_iff_of_plainPath plain (.inl rfl)).mpr ⟨rfl, rfl⟩)⟩

/-- A path that is given as the only setting is the one that the library is found at. -/
theorem Item.root_of_plainPath {item : Item} {a : Attribute} {d : Delimiter} {joint : Bool}
    (own : item.attributes.filter Attribute.isOwn = [a])
    (argument : a.argument = .list d (.leaf (.name "crate") :: .leaf (.mark '=' joint) :: ts))
    (plain : Reader.PlainPath ts words []) : item.root = .ok words := by
  refine Item.root_eq_ok_iff.mpr ⟨[words], ⟨[[words]], ?_, rfl⟩, rfl⟩
  rw [own]
  exact .cons (Attribute.lists_of_plainPath argument plain) .nil

end MarkSweep.Derive

import MarkSweep.Derive.Complaint
import MarkSweep.Derive.Reader.Front
import MarkSweep.Derive.Separated

/-!
Readers of token trees. A reader takes trees off the front and keeps the words of what it took, each
mark as one word even if the text has joined it to the next.
-/

namespace MarkSweep.Derive

structure Cursor where
  trees : List Tree
  words : List Word := []
  unread : Option Delimiter := none

/-- Reading leads from the first cursor to the second: trees were taken off the front, words were
added, and a group that was left before its end is not forgotten. -/
structure Cursor.Precedes (c d : Cursor) : Prop where
  trees : d.trees <:+ c.trees
  words : c.words <:+ d.words
  unread : c.unread.isSome → d.unread.isSome

namespace Cursor.Precedes

theorem refl (c : Cursor) : c.Precedes c := ⟨List.suffix_refl _, List.suffix_refl _, id⟩

theorem trans {c d e : Cursor} (first : c.Precedes d) (second : d.Precedes e) : c.Precedes e :=
  ⟨second.trees.trans first.trees, first.words.trans second.words,
    fun h => second.unread (first.unread h)⟩

end Cursor.Precedes

structure Progress (c : Cursor) (α : Type) where
  answer : α
  cursor : Cursor
  precedes : c.Precedes cursor

def Reader (α : Type) : Type := (c : Cursor) → Except Complaint (Progress c α)

instance : Monad Reader where
  pure a c := .ok ⟨a, c, .refl c⟩
  bind r f c :=
    match r c with
    | .error e => .error e
    | .ok x =>
      match f x.answer x.cursor with
      | .error e => .error e
      | .ok y => .ok ⟨y.answer, y.cursor, x.precedes.trans y.precedes⟩

namespace Delimiter

def description : Delimiter → String
  | paren => "parentheses"
  | bracket => "square brackets"
  | brace => "curly braces"

end Delimiter

namespace Reader

variable {α : Type}

def run (r : Reader α) (c : Cursor) : Except Complaint (α × Cursor) :=
  (r c).map fun x => (x.answer, x.cursor)

def cursor : Reader Cursor := fun c => .ok ⟨c, c, .refl c⟩

def trees : Reader (List Tree) := return (← cursor).trees

/-! ### Failures -/

def complain (e : Complaint) : Reader α := fun _ => .error e

def refuse (description : String) : Reader α := complain (.expected description false)

def fail (description : String) : Reader α := do
  complain (.expected description (← trees).isEmpty)

def quoted (text : String) : String := "`" ++ text ++ "`"

def failAmongAt (ts : List Tree) : List String → Reader α
  | [] => refuse (if ts.isEmpty then "unexpected end of input" else "unexpected token")
  | [a] => complain (.expected ("expected " ++ a) ts.isEmpty)
  | [a, b] => complain (.expected ("expected " ++ a ++ " or " ++ b) ts.isEmpty)
  | as => complain (.expected ("expected one of: " ++ ", ".intercalate as) ts.isEmpty)

def failAmong (descriptions : List String) : Reader α := do
  failAmongAt (← trees) descriptions

/-! ### Reading one thing -/

def take (count : Nat) (words : List Word) : Reader Unit := fun c =>
  .ok ⟨(), { c with trees := c.trees.drop count, words := words.reverse ++ c.words },
    ⟨List.drop_suffix count c.trees, List.suffix_append _ _, id⟩⟩

def emit (words : List Word) : Reader Unit := take 0 words

def mark? (text : String) : Reader Bool := do
  unless atMark text (← trees) do return false
  take text.length [text]
  return true

def mark (text : String) : Reader Unit := do
  unless ← mark? text do refuse ("expected " ++ quoted text)

def word? (word : String) : Reader Bool := do
  unless atWord word (← trees) do return false
  take 1 [word]
  return true

def word (text : String) : Reader Unit := do
  unless ← word? text do fail ("expected " ++ quoted text)

def anyOf (words : List String) : Reader Bool := do
  match words.find? (atWord · (← trees)) with
  | some text => word? text
  | none => return false

def anyName : Reader String := do
  match ← trees with
  | .leaf (.name text) :: _ => take 1 [text]; return text
  | _ => fail "expected ident"

def name : Reader String := do
  match ← trees with
  | .leaf (.name text) :: _ =>
    if text ∈ keywords then fail ("expected identifier, found keyword " ++ quoted text)
    take 1 [text]
    return text
  | _ => fail "expected identifier"

def nameOr (words : List String) : Reader String := do
  if atAnyWord words (← trees) then anyName else name

def lifetime : Reader String := do
  match ← trees with
  | .leaf (.lifetime text) :: _ => take 1 [text]; return text
  | _ => fail "expected lifetime"

def lifetime? : Reader Bool := do
  unless atLifetime (← trees) do return false
  let _ ← lifetime
  return true

def literal : Reader Unit := do
  unless atLiteral (← trees) do fail "expected literal"
  match ← trees with
  | .leaf (.mark c _) :: .leaf t :: _ => take 2 [c.toString, t.word]
  | .leaf t :: _ => take 1 [t.word]
  | _ => pure ()

/-! ### Groups -/

def inside (d : Delimiter) (held : List Tree) (r : Reader α) : Reader α := fun c =>
  match r { c with trees := held, words := d.opening :: c.words } with
  | .error e => .error e
  | .ok x => .ok {
    answer := x.answer
    cursor := {
      trees := c.trees.drop 1
      words := d.closing :: x.cursor.words
      unread := x.cursor.unread <|> if x.cursor.trees.isEmpty then none else some d }
    precedes := {
      trees := List.drop_suffix 1 c.trees
      words := (List.suffix_cons _ _).trans (x.precedes.words.trans (List.suffix_cons _ _))
      unread := fun h => by
        obtain ⟨e, he⟩ := Option.isSome_iff_exists.mp (x.precedes.unread h)
        simp [he] } }

def group (d : Delimiter) (r : Reader α) : Reader α := do
  match ← trees with
  | .group e held :: _ =>
    if d ≠ e then fail ("expected " ++ d.description)
    inside d held r
  | _ => fail ("expected " ++ d.description)

def anyGroup : Reader Delimiter := do
  match ← trees with
  | .group d held :: _ =>
    take 1 (Tree.words [.group d held])
    return d
  | _ => fail "expected delimiter"

def everything : Reader Unit := do
  let ts ← trees
  take ts.length (Tree.words ts)

def whole (r : Reader α) : Reader α := do
  let a ← r
  match (← cursor).unread with
  | some d => refuse ("unexpected token, expected " ++ quoted d.closing.text)
  | none => if (← trees).isEmpty then return a else refuse "unexpected token"

/-! ### Words -/

def capture (r : Reader α) : Reader (α × List Word) := fun c =>
  match r { c with words := [] } with
  | .error e => .error e
  | .ok x => .ok {
    answer := (x.answer, x.cursor.words.reverse)
    cursor := { x.cursor with words := c.words }
    precedes := ⟨x.precedes.trees, List.suffix_refl _, x.precedes.unread⟩ }

def noting (r : Reader α) : Reader (α × List Word) := do
  let (a, words) ← capture r
  emit words
  return (a, words)

def emitSince (start : List Tree) : Reader Unit := do
  emit (Tree.words (start.take (start.length - (← trees).length)))

/-- Reads, and keeps the words as the text joins them if the answer says so. -/
def rawIf (raw : α → Bool) (r : Reader α) : Reader α := do
  let start ← trees
  let (a, words) ← capture r
  if raw a then emitSince start else emit words
  return a

/-! ### Repetition -/

def attempt (r : Reader α) : Reader (Option α) := fun c =>
  match r c with
  | .ok x => .ok ⟨some x.answer, x.cursor, x.precedes⟩
  | .error _ => .ok ⟨none, c, .refl c⟩

def repeatAtMost (step : Reader Bool) : Nat → Reader Unit
  | 0 => pure ()
  | n + 1 => do if ← step then repeatAtMost step n

def repeatWhile (step : Reader Bool) : Reader Unit := do
  repeatAtMost step ((← trees).length + 1)

def itemsAtMost (stop : List Tree → Bool) (separator : Reader Bool) (item : Reader α) :
    Nat → Reader (Separated α)
  | 0 => refuse "too many items"
  | n + 1 => do
    if stop (← trees) then return {}
    let a ← item
    unless ← separator do return ⟨[a], false⟩
    let rest ← itemsAtMost stop separator item n
    return ⟨a :: rest.items, rest.items.isEmpty || rest.trailing⟩

def separated (stop : List Tree → Bool) (separator : String) (item : Reader α) :
    Reader (Separated α) := do
  itemsAtMost stop (mark? separator) item ((← trees).length + 1)

def separatedUntil (stop : List Tree → Bool) (separator : String) (item : Reader α) :
    Reader (Separated α) := do
  let next : Reader Bool := do
    if stop (← trees) then return false
    mark separator
    return true
  itemsAtMost stop next item ((← trees).length + 1)

def listed (item : Reader α) : Reader (Separated α) := separatedUntil List.isEmpty "," item

def manyAtMost (more : List Tree → Bool) (item : Reader α) : Nat → Reader (List α)
  | 0 => return []
  | n + 1 => do
    unless more (← trees) do return []
    let a ← item
    return a :: (← manyAtMost more item n)

def many (more : List Tree → Bool) (item : Reader α) : Reader (List α) := do
  manyAtMost more item (← trees).length

def filled (item : Reader α) : Reader Unit := discard (many (!·.isEmpty) item)

end Reader

end MarkSweep.Derive

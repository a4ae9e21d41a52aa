import MarkSweep.Derive.Reader.Statement

namespace MarkSweep.Derive.Reader

def isScope : List Tree → Bool
  | [.leaf (.name text)] => text ∈ ["crate", "self", "super"]
  | .leaf (.name text) :: _ => text == "in"
  | _ => false

def afterVisibility (ts : List Tree) : List Tree :=
  if atWord "pub" ts then
    match ts.tail with
    | .group .paren inside :: rest => if isScope inside then rest else ts.tail
    | rest => rest
  else ts

def visibility : Reader Bool := do
  unless ← word? "pub" do return false
  if let .group .paren inside :: _ ← trees then
    if isScope inside then
      group .paren do
        if ← word? "in" then plainPath else discard anyName
  return true

variable (within : Within)

def fieldType (named : Bool) : Reader Unit := do
  let ts ← trees
  let inner := !named && (atWord "struct" ts || (atWord "union" ts && atGroup .brace ts.tail))
  rawIf (fun _ => inner) do
    if inner then
      discard anyName
      discard within.fields
    else within.anyType

def namedField : Reader Field := do
  let attributes ← attributes within
  discard visibility
  let named := !atWord "_" (← trees)
  let text ← nameOr ["_"]
  mark ":"
  return ⟨attributes, some text, (← noting (fieldType within named)).2⟩

def tupleField : Reader Field := do
  let attributes ← attributes within
  discard visibility
  return ⟨attributes, none, (← noting within.anyType).2⟩

def namedFields : Reader (List Field) := do
  return (← group .brace (listed (namedField within))).items

def tupleFields : Reader (List Field) := do
  return (← group .paren (listed (tupleField within))).items

def variant : Reader Variant := do
  discard (attributes within)
  discard (capture visibility)
  let text ← name
  let ts ← trees
  let fields ← if atGroup .brace ts then Fields.named <$> namedFields within
    else if atGroup .paren ts then Fields.tuple <$> tupleFields within
    else pure Fields.unit
  if ← mark? "=" then within.value
  return ⟨text, fields⟩

def structContent : Reader (Separated (List Word) × Fields) := do
  let before ← whereClause? within
  let ts ← trees
  if before.isNone && atGroup .paren ts then
    let fields ← tupleFields within
    let behind ← whereClause? within
    unless ← mark? ";" do
      failAmong (if behind.isSome then [quoted ";"] else [quoted "where", quoted ";"])
    return (behind.getD {}, .tuple fields)
  if atGroup .brace ts then return (before.getD {}, .named (← namedFields within))
  unless ← mark? ";" do
    failAmong (if before.isSome then ["curly braces", quoted ";"]
      else [quoted "where", "parentheses", "curly braces", quoted ";"])
  return (before.getD {}, .unit)

end MarkSweep.Derive.Reader

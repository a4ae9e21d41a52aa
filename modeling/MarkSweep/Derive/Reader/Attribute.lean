import MarkSweep.Derive.Reader.Within

namespace MarkSweep.Derive.Reader

def plainPath : Reader Unit := do
  discard (mark? "::")
  unless atPathWord (← trees) do discard name
  repeatWhile do
    unless atPathWord (← trees) do fail ("expected path segment after " ++ quoted "::")
    discard anyName
    mark? "::"

variable (within : Within)

def attributeValue : Reader Unit := do
  let literalOnly ← attempt do
    literal
    unless (← trees).isEmpty do fail "expected an expression"
  if literalOnly.isNone then
    let ts ← trees
    if atMark "#" ts && atGroup .bracket ts.tail then
      fail "unexpected attribute inside of attribute"
    within.value

def attributeContent : Reader Attribute := group .bracket do
  let (_, path) ← noting do
    unless ← word? "unsafe" do plainPath
  match ← trees with
  | .group _ held :: _ =>
    let d ← anyGroup
    return ⟨path, .list d held⟩
  | _ =>
    unless ← mark? "=" do return ⟨path, .none⟩
    attributeValue within
    return ⟨path, .value⟩

def attributes : Reader (List Attribute) := many (atMark "#") do
  mark "#"
  attributeContent within

def attributeWords : Reader (List Word) := do return (← capture (attributes within)).2

def innerAttributes : Reader Unit :=
  discard (many (fun ts => atMark "#" ts && atMark "!" ts.tail) do
    mark "#"
    mark "!"
    attributeContent within)

def block : Reader Unit := group .brace within.statements

def body : Reader Unit := group .brace do
  innerAttributes within
  within.statements

def members (member : Reader Unit) : Reader Unit := group .brace do
  innerAttributes within
  filled member

end MarkSweep.Derive.Reader

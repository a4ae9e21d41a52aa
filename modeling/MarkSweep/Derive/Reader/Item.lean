import MarkSweep.Derive.Lexeme
import MarkSweep.Derive.Reader.Declaration

namespace MarkSweep.Derive

namespace Reader

def nested : Nat → Within
  | 0 => {
    type := fun _ => refuse "nested too deeply"
    bound := fun _ => refuse "nested too deeply"
    operand := fun _ => refuse "nested too deeply"
    extend := fun _ _ _ => refuse "nested too deeply"
    standing := refuse "nested too deeply"
    pattern := refuse "nested too deeply"
    fields := refuse "nested too deeply"
    statements := refuse "nested too deeply"
    declaration := refuse "nested too deeply" }
  | n + 1 =>
    let within := nested n
    { type := typeForm within
      bound := boundForm within
      operand := operandForm within
      extend := extendForm within
      standing := standingForm within
      pattern := patternForm within
      fields := namedFields within
      statements := statementsForm within
      declaration := declarationForm within }

/-- The readers of what is nested in some trees. No more than three are used one for another
without a tree being taken. -/
def nestedIn (ts : List Tree) : Within := nested (4 * Tree.count ts + 4)

variable (within : Within)

def item : Reader Item := do
  let attributes ← attributes within
  discard visibility
  let ts ← trees
  unless ← anyOf ["struct", "enum", "union"] do
    failAmong (["struct", "enum", "union"].map quoted)
  let text ← name
  let found ← parameters within
  if atWord "struct" ts then
    let (predicates, fields) ← structContent within
    return ⟨attributes, text, ⟨found, predicates⟩, .struct fields⟩
  let predicates := (← whereClause? within).getD {}
  let content ← if atWord "enum" ts then
      Content.enum <$> Separated.items <$> group .brace (listed (variant within))
    else Content.union <$> namedFields within
  return ⟨attributes, text, ⟨found, predicates⟩, content⟩

end Reader

/-- The item that a text declares, if it declares one and no more. -/
def Item.ofText? (text : String) : Option Item := do
  let trees ← Tree.ofText? text
  match (Reader.whole (Reader.item (Reader.nestedIn trees))).run { trees } with
  | .ok (item, _) => some item
  | .error _ => none

end MarkSweep.Derive

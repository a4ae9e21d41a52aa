import MarkSweep.Derive.Reader.Item

/-!
The attribute that settles how an item is traced. It lists settings in parentheses: where the
library is found for an item, and that it is skipped for a field.
-/

namespace MarkSweep.Derive

open Word

namespace Reader

def settingPath : Reader Unit := do
  discard (mark? "::")
  let ts ← trees
  if atAnyName ts then
    repeatWhile do
      discard anyName
      mark? "::"
  else if ts.isEmpty then fail "expected nested attribute"
  else if atLiteral ts then fail "unexpected literal in nested attribute, expected ident"
  else fail "unexpected token in nested attribute, expected ident"

variable {α : Type} (setting : List Word → Reader α)

def entry : Reader α := do
  let (_, path) ← noting settingPath
  setting path

def settingsAtMost : Nat → Reader (List α)
  | 0 => return []
  | n + 1 => do
    if (← trees).isEmpty then return []
    let a ← entry setting
    if (← trees).isEmpty then return [a]
    mark ","
    return a :: (← settingsAtMost n)

def settings : Reader (List α) := do settingsAtMost setting (← trees).length

def rootSetting (path : List Word) : Reader (List Word) := do
  unless path = plain ["crate"] do complain .unsupportedAttribute
  mark "="
  return (← noting (Reader.path (nestedIn (← trees)) false)).2

def skipSetting (path : List Word) : Reader Unit := do
  unless path = plain ["skip"] do complain .unsupportedFieldAttribute

end Reader

namespace Attribute

def isOwn (a : Attribute) : Bool := a.path == plain ["zinc_gc"]

def settings {α : Type} (setting : List Word → Reader α) (a : Attribute) :
    Except Complaint (List α) :=
  match a.argument with
  | .none => .error (.argumentsExpected false)
  | .value => .error (.argumentsExpected true)
  | .list _ trees => (·.1) <$> (Reader.whole (Reader.settings setting)).run { trees }

def allSettings {α : Type} (setting : List Word → Reader α) (as : List Attribute) :
    Except Complaint (List α) :=
  List.flatten <$> (as.filter isOwn).mapM (settings setting)

end Attribute

def Field.isSkipped (f : Field) : Except Complaint Bool := do
  return !(← Attribute.allSettings Reader.skipSetting f.attributes).isEmpty

/-- The path of the library, the one given last if any is. -/
def Item.root (item : Item) : Except Complaint (List Word) := do
  return (← Attribute.allSettings Reader.rootSetting item.attributes).getLast?.getD
    (plain ["::", "zinc_gc"])

end MarkSweep.Derive

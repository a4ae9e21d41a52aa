import MarkSweep.Derive.Reader.Attribute

namespace MarkSweep.Derive.Reader

structure Path where
  qualified : Bool := false
  leading : Bool
  segments : List (String × Bool)

namespace Path

def isPlain (p : Path) : Bool := !p.qualified && p.segments.all (!·.2)

def isName (p : Path) : Bool := !p.qualified && !p.leading && p.segments.length == 1

def form (p : Path) : TypeForm :=
  if p.isName then .name else if p.qualified then .other else .path

end Path

def pathGoesOn (ts : List Tree) : Bool := atMark "::" ts && !atGroup .paren ts.tail.tail

variable (within : Within)

def returnType : Reader Unit := do
  if ← mark? "->" then discard (within.type false)

def constantArgument : Reader Unit := do
  let ts ← trees
  if atLiteral ts then literal
  else if atName ts then discard name
  else if atGroup .brace ts then body within
  else failAmong []

def argumentEnd (ts : List Tree) : Bool := atAnyMark [",", ">"] ts

def genericArgument : Reader Bool := do
  let ts ← trees
  if atLifetime ts && !atMark "+" ts.tail then return ← lifetime?
  if atLiteral ts || atGroup .brace ts then
    constantArgument within
  else if (← within.type true) == .name then
    if ← mark? "=" then
      let ts ← trees
      if atLiteral ts || atGroup .brace ts then constantArgument within else within.anyType
    else if ← mark? ":" then discard (separated argumentEnd "+" (within.bound .subject))
  return false

def genericArguments : Reader Unit := do
  mark "<"
  let (arguments, _) ← capture
    (separatedUntil (atMark ">") "," (noting (genericArgument within)))
  emit (arguments.wordsFirst (·.1) (·.2))
  mark ">"

def segment (inExpression : Bool) : Reader (String × Bool) := do
  if atAnyWord ["super", "self", "crate", "try"] (← trees) then return (← anyName, false)
  let text ← nameOr ["Self"]
  let ts ← trees
  if (!inExpression && atMarkNot "<" ["<="] ts) || (atMark "::" ts && atMark "<" ts.tail.tail) then
    discard (mark? "::")
    genericArguments within
    return (text, true)
  return (text, false)

def segments (inExpression : Bool) (goesOn : List Tree → Bool) :
    Reader (List (String × Bool)) := do
  let first ← segment within inExpression
  let rest ← many goesOn do
    mark "::"
    segment within inExpression
  return first :: rest

def path (inExpression : Bool) : Reader Path := do
  let leading ← mark? "::"
  return ⟨false, leading, ← segments within inExpression pathGoesOn⟩

def qualifiedPath (inExpression : Bool) : Reader Path := do
  unless ← mark? "<" do return ← path within inExpression
  within.anyType
  if ← word? "as" then discard (path within false)
  mark ">"
  mark "::"
  return ⟨true, false, ← segments within inExpression (atMark "::")⟩

def invocation? (p : Path) : Reader (Option Delimiter) := do
  unless p.isPlain && atMarkNot "!" ["!="] (← trees) do return none
  mark "!"
  return some (← anyGroup)

end MarkSweep.Derive.Reader

import MarkSweep.Derive.Reader.Bound

namespace MarkSweep.Derive.Reader

variable (within : Within)

def objectBounds (plus : Bool) : Reader (Separated Bound) := do
  let found ← bounds within plus .object
  unless found.items.any Bound.isTrait do
    refuse "at least one trait is required for an object type"
  return found

def hiddenBounds (plus : Bool) : Reader Unit := do
  let found ← bounds within plus .hidden
  unless found.items.any Bound.isTrait do refuse "at least one trait must be specified"

def addedBounds : Reader Unit := repeatWhile do
  unless ← mark? "+" do return false
  discard (within.bound .object)
  return true

def atLabel (ts : List Tree) : Bool := (atName ts || atWord "_" ts) && atMark ":" ts.tail

def atVariadic (ts : List Tree) : Bool :=
  atMark "..." ts || (atLabel ts && atMark "..." ts.tail.tail)

def functionArgument (first : Bool) : Reader Bool := do
  let atMutableSelf (ts : List Tree) : Bool := first && atWord "mut" ts && atWord "self" ts.tail
  let mutableSelf := atMutableSelf (← trees)
  if mutableSelf then word "mut"
  let ts ← trees
  let isSelf := first && atWord "self" ts
  let named := (atName ts || atWord "_" ts || isSelf) && atColon ts.tail
  if named then
    discard anyName
    mark ":"
  if !(named && isSelf) && atMutableSelf (← trees) then
    word "mut"
    word "self"
    return true
  if mutableSelf && !named then word "self" else within.anyType
  return mutableSelf

def variadicArgument : Reader Unit := do
  if atLabel (← trees) then
    discard anyName
    mark ":"
  mark "..."
  discard (mark? ",")

def functionArguments (first : Bool) : Nat → Reader Unit
  | 0 => pure ()
  | n + 1 => do
    if (← trees).isEmpty then return
    discard (attributes within)
    if atVariadic (← trees) then variadicArgument
    else
      discard (rawIf id (functionArgument within first))
      unless (← trees).isEmpty do
        mark ","
        functionArguments false n

def foreign? : Reader Bool := do
  unless ← word? "extern" do return false
  if atString (← trees) then literal
  return true

def functionPointer : Reader Unit := do
  discard (word? "unsafe")
  discard foreign?
  word "fn"
  group .paren do functionArguments within true ((← trees).length + 1)
  returnType within

inductive Parenthesised where
  | optional
  | type (form : TypeForm)
  | other

def parenthesisedContent : Reader Parenthesised := do
  let ts ← trees
  if ts.isEmpty then return .other
  if atLifetime ts then
    discard (objectBounds within true)
    return .other
  if atMark "?" ts then
    discard (traitBound within .object)
    return .optional
  let form ← within.type true
  unless atMark "," (← trees) do return .type form
  mark ","
  discard (listed within.anyType)
  return .other

def parenthesised (plus : Bool) : Reader TypeForm := do
  let ((content, inner), outer) ← capture (group .paren (noting (parenthesisedContent within)))
  let added := atMark "+" (← trees)
  match content with
  | .optional =>
    emit outer
    addedBounds within
    return if added then .other else .bound true
  | .type (.bound true) => emit (if plus && added then inner else outer)
  | _ => emit outer
  match content with
  | .type form =>
    if plus && added && form != .other then addedBounds within
    return .other
  | _ => return .other

def builtin : Reader Unit := do
  word "builtin"
  mark "#"
  discard name
  group .paren everything

def pathType (plus : Bool) (binder : List Word) : Reader TypeForm := do
  let (p, words) ← capture (qualifiedPath within false)
  let ((invoked : Option Delimiter), called) ← capture (invocation? p)
  if invoked.isSome then
    emit (words ++ called)
    return .other
  emit (binder ++ words)
  if p.qualified then return .other
  unless !binder.isEmpty || (plus && atMark "+" (← trees)) do return p.form
  unless plus && atMark "+" (← trees) do return .bound false
  repeatWhile do
    unless ← mark? "+" do return false
    unless atBound .object (← trees) do return false
    discard (within.bound .object)
    return true
  return .other

def bracketed : Reader Unit := group .bracket do
  within.anyType
  if ← mark? ";" then within.value

def pointer : Reader Unit := do
  mark "*"
  unless ← anyOf ["const", "mut"] do failAmong [quoted "const", quoted "mut"]
  discard (within.type false)

def reference : Reader Unit := do
  mark "&"
  discard lifetime?
  discard (word? "mut")
  discard (within.type false)

def otherType (plus : Bool) : Reader Unit := do
  let ts ← trees
  if ← word? "dyn" then
    discard (mark? "*")
    discard (objectBounds within plus)
  else if atGroup .bracket ts then bracketed within
  else if atMark "*" ts then pointer within
  else if atMark "&" ts then reference within
  else if ← mark? "!" then pure ()
  else if ← word? "impl" then hiddenBounds within plus
  else if ← word? "_" then pure ()
  else if atLifetime ts then discard (objectBounds within true)
  else
    failAmong [quoted "for", "parentheses", quoted "fn", quoted "unsafe", quoted "extern",
      "identifier", quoted "::", quoted "<", quoted "dyn", "square brackets", quoted "*",
      quoted "&", quoted "!", quoted "impl", quoted "_", "lifetime"]

def atFunction (ts : List Tree) : Bool := atAnyWord ["fn", "unsafe", "extern"] ts

def typeForm (plus : Bool) : Reader TypeForm := do
  let (binds, binder) ← capture (binder? within)
  let ts ← trees
  if binds && !atFunction ts && !atPathWord ts then
    failAmong ["identifier", quoted "fn", quoted "unsafe", quoted "extern", quoted "super",
      quoted "self", quoted "Self", quoted "crate"]
  if atGroup .paren ts then return ← parenthesised within plus
  if atFunction ts then
    emit binder
    functionPointer within
    return .other
  if atWord "builtin" ts && atMark "#" ts.tail then
    rawIf (fun _ => true) builtin
    return .other
  if atPathWord ts || atAnyMark ["::", "<"] ts then return ← pathType within plus binder
  let star := atWord "dyn" ts && atMark "*" ts.tail
  rawIf (fun _ => star) (otherType within plus)
  return .other

end MarkSweep.Derive.Reader

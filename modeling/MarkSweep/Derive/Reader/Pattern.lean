import MarkSweep.Derive.Reader.Type

namespace MarkSweep.Derive.Reader

def member : Reader Bool := do
  match ← trees with
  | .leaf (.literal text) :: _ =>
    unless Literal.isWhole text do fail "expected identifier or integer"
    match Literal.place? text with
    | .ok place => take 1 [toString place]
    | .error description => refuse description
    return false
  | ts =>
    unless atName ts do fail "expected identifier or integer"
    discard name
    return true

def rangeMark (inPattern : Bool) : Reader Bool := do
  if ← mark? "..=" then return true
  if atMark "..." (← trees) then
    unless inPattern do failAmong [quoted "..="]
    discard (capture (mark "..."))
    emit ["..="]
    return true
  mark ".."
  return false

variable (within : Within)

def alternatives : Reader PatternForm := do
  let goesOn (ts : List Tree) : Bool := atMarkNot "|" ["||", "|="] ts
  let leading ← mark? "|"
  let form ← within.pattern
  unless leading || goesOn (← trees) do return form
  discard (many goesOn do
    mark "|"
    within.pattern)
  return .other

def atPatternEnd (ts : List Tree) : Bool :=
  ts.isEmpty || atAnyMark ["|", "=", ",", ";"] ts || atColon ts || atWord "if" ts

def rangeEnd? : Reader Bool := do
  let ts ← trees
  if atPatternEnd ts then return false
  if atLiteral ts then literal
  else if atPathWord ts || atAnyMark ["::", "<"] ts then discard (qualifiedPath within true)
  else if ← word? "const" then body within
  else
    failAmong ["literal", "identifier", quoted "::", quoted "<", quoted "self", quoted "Self",
      quoted "super", quoted "crate", quoted "const"]
  return true

def rangeFrom : Reader PatternForm := do
  let closed ← rangeMark true
  if ← rangeEnd? within then return .other
  if closed then fail "expected range upper bound"
  return .openRange

def rangeTo : Reader PatternForm := do
  let closed ← rangeMark false
  if ← rangeEnd? within then return .openRange
  if closed then fail "expected range upper bound"
  return .other

def fieldPattern : Reader Bool := do
  let boxed ← word? "box"
  let byReference ← word? "ref"
  let mutable ← word? "mut"
  let plain := !(boxed || byReference || mutable)
  let named ← if plain then member else do
    discard name
    pure true
  if (plain && atMark ":" (← trees)) || !named then
    mark ":"
    discard (alternatives within)
  return boxed

def fieldPatterns : Reader Unit := group .brace do
  repeatWhile do
    if (← trees).isEmpty then return false
    discard (attributes within)
    if ← mark? ".." then return false
    discard (rawIf id (fieldPattern within))
    if (← trees).isEmpty then return false
    mark ","
    return true

def slicePattern : Reader Unit := group .bracket do
  discard (listed do
    if (← alternatives within) == .openRange then
      refuse "range pattern is not allowed unparenthesized inside slice pattern")

def tuplePattern : Reader Unit := discard (group .paren (listed (alternatives within)))

def atPathPattern (ts : List Tree) : Bool :=
  let next := ts.tail
  (atName ts && (atAnyMark ["::", "!", ".."] next || atGroup .brace next || atGroup .paren next)) ||
    (atWord "self" ts && atMark "::" next) || atAnyMark ["::", "<"] ts ||
    atAnyWord ["Self", "super", "crate"] ts

def pathPattern : Reader PatternForm := do
  let p ← qualifiedPath within true
  if (← invocation? p).isSome then return .other
  let ts ← trees
  if atGroup .brace ts then fieldPatterns within
  else if atGroup .paren ts then tuplePattern within
  else if atMark ".." ts then return ← rangeFrom within
  return .other

def literalPattern : Reader PatternForm := do
  discard (rangeEnd? within)
  if atMark ".." (← trees) then rangeFrom within else return .other

def namePattern : Reader Unit := do
  discard (word? "ref")
  discard (word? "mut")
  discard (nameOr ["self"])
  if ← mark? "@" then discard within.pattern

def patternForm : Reader PatternForm := do
  let ts ← trees
  if atPathPattern ts then return ← pathPattern within
  if atWord "box" ts then
    rawIf (fun _ => true) do
      word "box"
      discard within.pattern
    return .raw
  if atMark "-" ts || atLiteral ts || atWord "const" ts then return ← literalPattern within
  if atMarkNot ".." ["..."] ts then return ← rangeTo within
  if ← word? "_" then pure ()
  else if atName ts || atAnyWord ["ref", "mut", "self"] ts then namePattern within
  else if ← mark? "&" then
    discard (word? "mut")
    discard within.pattern
  else if atGroup .paren ts then tuplePattern within
  else if atGroup .bracket ts then slicePattern within
  else
    failAmong ["identifier", quoted "::", quoted "<", quoted "_", "literal", quoted "const",
      quoted "ref", quoted "mut", quoted "&", "parentheses", "square brackets", quoted ".."]
  return .other

end MarkSweep.Derive.Reader

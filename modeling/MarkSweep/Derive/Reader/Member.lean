import MarkSweep.Derive.Reader.Function

namespace MarkSweep.Derive.Reader

variable (within : Within)

def colonBounds (place : BoundPlace) (stop : List Tree → Bool) : Reader Bool := do
  let ((colon, found), _) ← capture do
    unless ← mark? ":" do return (false, {})
    return (true, ← separatedUntil stop "+" (within.bound place))
  emit (Parameter.boundWords found Bound.words)
  return colon

structure TypeContent where
  bounded : Bool
  defined : Bool

def typeContent (clauseBefore clauseAfter : Bool) : Reader TypeContent := do
  word "type"
  discard name
  discard (parameters within)
  let bounded ← colonBounds within .subject fun ts => atWord "where" ts || atAnyMark ["=", ";"] ts
  let clause ← if clauseBefore then whereClause within else pure false
  let defined ← mark? "="
  if defined then within.anyType
  if clauseAfter && !clause then discard (whereClause within)
  mark ";"
  return ⟨bounded, defined⟩

structure ConstantContent where
  generic : Bool
  defined : Bool

def constantContent : Reader ConstantContent := do
  word "const"
  let ts ← trees
  unless atName ts || atWord "_" ts do failAmong ["identifier", quoted "_"]
  discard anyName
  let generic := atMark "<" (← trees)
  discard (parameters within)
  mark ":"
  within.anyType
  let defined ← mark? "="
  if defined then within.value
  let clause ← whereClause within
  mark ";"
  return ⟨generic || clause, defined⟩

def nameOrTry : Reader Unit := discard (nameOr ["try"])

def invocation (naming : Bool) : Reader Bool := do
  plainPath
  mark "!"
  let ts ← trees
  if naming && (atName ts || atWord "try" ts) then nameOrTry
  unless (← anyGroup) == .brace do mark ";"
  return false

def atInvocation (ts : List Tree) : Bool :=
  atName ts || atAnyWord ["self", "super", "crate"] ts || atMark "::" ts

def invocationWords : List String :=
  ["identifier", quoted "self", quoted "super", quoted "crate", quoted "::"]

def traitFunction : Reader Bool := do
  discard (signature within false)
  if atGroup .brace (← trees) then body within
  else unless ← mark? ";" do failAmong ["curly braces", quoted ";"]
  return false

def traitConstant : Reader Bool := do
  let next := (← trees).tail
  unless atName next || atWord "_" next do
    failAmong (["identifier"] ++ ["_", "async", "unsafe", "extern", "fn"].map quoted)
  return (← constantContent within).generic

def traitMemberContent : Reader Bool := do
  let visible ← visibility
  let specialised ← word? "default"
  let ts ← trees
  let marked := visible || specialised
  if atFunctionItem false ts then return (← traitFunction within) || marked
  if atWord "const" ts then return (← traitConstant within) || marked
  if atWord "type" ts then
    discard (typeContent within false true)
    return marked
  if !marked && atInvocation ts then return ← invocation false
  failAmong (["fn", "const", "type"].map quoted ++ if marked then [] else invocationWords)

def implementedFunction : Reader Bool := do
  discard (signature within false)
  if ← mark? ";" then return true
  body within
  return false

def implementedMemberContent : Reader Bool := do
  let visible ← visibility
  let ts ← trees
  let specialised ← if atMark "!" ts.tail then pure false else word? "default"
  let ts ← trees
  if atFunctionItem false ts then return ← implementedFunction within
  if atWord "const" ts then
    let content ← constantContent within
    return content.generic || !content.defined
  if atWord "type" ts then
    let content ← typeContent within false true
    return content.bounded || !content.defined
  if !visible && !specialised && atInvocation ts then return ← invocation false
  failAmong ((if specialised then [] else [quoted "default"]) ++
    ["fn", "const", "type"].map quoted ++
    if visible || specialised then [] else invocationWords)

def foreignFunction : Reader Bool := do
  let safe ← signature within true
  let defined := atGroup .brace (← trees)
  if defined then body within else mark ";"
  return safe || defined

def foreignStatic : Reader Bool := do
  let marked ← anyOf ["unsafe", "safe"]
  word "static"
  discard (word? "mut")
  discard name
  mark ":"
  within.anyType
  let defined ← mark? "="
  if defined then within.value
  mark ";"
  return marked || defined

def foreignMemberContent : Reader Bool := do
  let visible ← visibility
  let ts ← trees
  if atFunctionItem true ts then return ← foreignFunction within
  if atWord "static" ts || (atAnyWord ["unsafe", "safe"] ts && atWord "static" ts.tail) then
    return ← foreignStatic within
  if atWord "type" ts then
    let content ← typeContent within true true
    return content.bounded || content.defined
  if !visible && atInvocation ts then return ← invocation false
  failAmong (["fn", "static", "type"].map quoted ++ if visible then [] else invocationWords)

def attributed (content : Reader Bool) : Reader Unit := discard (rawIf id do
  discard (attributes within)
  content)

end MarkSweep.Derive.Reader

import MarkSweep.Derive.Reader.Path

namespace MarkSweep.Derive.Reader

def lifetimeBounds (stop : List Tree → Bool) : Reader (Separated (List Word)) :=
  separated stop "+" (do return (← noting lifetime).2)

def atClauseEnd (ts : List Tree) : Bool :=
  ts.isEmpty || atGroup .brace ts || atAnyMark [",", ";", "="] ts || atColon ts

variable (within : Within)

def lifetimeParameter (attributes : List Word) : Reader Parameter := do
  let text ← lifetime
  let bounds ← if ← mark? ":" then lifetimeBounds (fun ts => ts.isEmpty || argumentEnd ts)
    else pure {}
  return .lifetime attributes text bounds

def constParameter (attributes : List Word) : Reader Parameter := do
  word "const"
  let text ← name
  mark ":"
  let (_, type) ← noting within.anyType
  let default ← if ← mark? "=" then pure (← noting (constantArgument within)).2 else pure []
  return .const attributes text type default

def typeParameter (attributes : List Word) : Reader Parameter := do
  let text ← name
  let bounds ←
    if ← mark? ":" then
      separated (fun ts => ts.isEmpty || argumentEnd ts || atMark "=" ts) "+"
        (within.bound .subject)
    else pure {}
  let default ← if ← mark? "=" then pure (← noting within.anyType).2 else pure []
  return .type attributes text bounds default

def parameter? (attributes : List Word) : Reader (Option Parameter) := do
  let ts ← trees
  if atLifetime ts then return some (← lifetimeParameter attributes)
  if atName ts then return some (← typeParameter within attributes)
  if atWord "const" ts then return some (← constParameter within attributes)
  return none

def boundParameter : Reader Parameter := do
  match ← parameter? within (← attributeWords within) with
  | some p => return p
  | none => failAmong ["identifier", "lifetime", quoted "const"]

def declaredParameter : Reader Parameter := do
  let attributes ← attributeWords within
  match ← parameter? within attributes with
  | some p => return p
  | none =>
    if ← word? "_" then return .type attributes "_" {} []
    failAmong ["lifetime", "identifier", quoted "const"]

def binder? : Reader Bool := do
  unless ← word? "for" do return false
  mark "<"
  let (found, _) ← capture (separatedUntil (atMark ">") "," (boundParameter within))
  emit (found.words "," Parameter.words)
  mark ">"
  return true

def parameters : Reader (Separated Parameter) := do
  let (found, _) ← capture do
    unless ← mark? "<" do return {}
    let found ← separatedUntil (atMark ">") "," (declaredParameter within)
    mark ">"
    return found
  emit (Generics.parameterList ⟨found, {}⟩ Parameter.words)
  return found

def predicate : Reader Unit := do
  let ts ← trees
  if atLifetime ts && atMark ":" ts.tail then
    discard lifetime
    mark ":"
    discard (lifetimeBounds atClauseEnd)
  else
    discard (binder? within)
    within.anyType
    mark ":"
    discard (separated atClauseEnd "+" (within.bound .subject))

def whereClause? : Reader (Option (Separated (List Word))) := do
  unless atWord "where" (← trees) do return none
  let (found, _) ← capture do
    word "where"
    if atParameters (← trees) then
      fail ("generic parameters on " ++ quoted "where" ++ " clauses are reserved for future use")
    separated atClauseEnd "," (do return (← noting (predicate within)).2)
  emit (Generics.whereClause ⟨{}, found⟩)
  return some found

def whereClause : Reader Bool := do return (← whereClause? within).isSome

end MarkSweep.Derive.Reader

import MarkSweep.Derive.Reader.Parameter

namespace MarkSweep.Derive.Reader

def BoundPlace.allowsConstant : BoundPlace → Bool
  | object => false
  | _ => true

def BoundPlace.allowsCapture : BoundPlace → Bool
  | hidden => true
  | _ => false

def atBound (place : BoundPlace) (ts : List Tree) : Bool :=
  atAnyName ts || atAnyMark ["::", "?"] ts || atLifetime ts || atGroup .paren ts ||
    (place.allowsConstant && atGroup .bracket ts)

def captured : Reader Unit := do
  word "use"
  mark "<"
  let stop (ts : List Tree) : Bool := atMark ">" ts
  let next : Reader Bool := do
    if ← mark? "," then return true
    unless stop (← trees) do failAmong [quoted ",", quoted ">"]
    return false
  let item : Reader (Bool × List Word) := noting do
    let ts ← trees
    if atLifetime ts then return ← lifetime?
    unless atName ts || atWord "Self" ts do failAmong ["lifetime", "identifier", quoted ">"]
    discard anyName
    return false
  let (found, _) ← capture (itemsAtMost stop next item ((← trees).length + 1))
  emit (found.wordsFirst (·.1) (·.2))
  mark ">"

variable (within : Within)

def constantPart (place : BoundPlace) : Reader Bool := do
  let forbid (text : String) : Reader Unit := do
    unless place.allowsConstant do refuse (quoted text ++ " is not allowed here")
  if atGroup .bracket (← trees) then
    group .bracket (word "const")
    forbid "[const]"
    return true
  if ← word? "const" then
    forbid "const"
    return true
  return false

def callArguments : Reader Unit := do
  discard (group .paren (listed within.anyType))
  returnType within

def traitBound (place : BoundPlace) : Reader BoundKind := do
  let outer ← binder? within
  let constant ← constantPart place
  let optional ← mark? "?"
  let inner ← if optional && !outer then binder? within else pure false
  let p ← path within false
  let ts ← trees
  if p.segments.getLast?.any (!·.2) then
    if atGroup .paren ts then callArguments within
    else if atMark "::" ts && atGroup .paren ts.tail.tail then
      discard (capture (mark "::"))
      callArguments within
  if optional && (outer || inner) then
    refuse (quoted "for<...>" ++ " binder not allowed with " ++ quoted "?" ++
      " trait polarity modifier")
  return if constant then .constant else .trait ((p.segments.getLast?.map (·.1)).getD "")

def boundKind (place : BoundPlace) : Reader BoundKind := do
  let ts ← trees
  if ← lifetime? then return .lifetime
  if atWord "use" ts then
    captured
    unless place.allowsCapture do
      refuse (quoted "use<...>" ++ " precise capturing syntax is not allowed here")
    return .capture
  if atGroup .paren ts then group .paren (traitBound within place) else traitBound within place

def boundForm (place : BoundPlace) : Reader Bound := do
  let (kind, words) ← noting (rawIf (· == .constant) (boundKind within place))
  return ⟨words, kind⟩

def bounds (plus : Bool) (place : BoundPlace) : Reader (Separated Bound) := do
  let first ← within.bound place
  unless plus do return ⟨[first], false⟩
  unless ← mark? "+" do return ⟨[first], false⟩
  let rest ← separated (!atBound place ·) "+" (within.bound place)
  return ⟨first :: rest.items, rest.items.isEmpty || rest.trailing⟩

end MarkSweep.Derive.Reader

import MarkSweep.Derive.Reader.Operator

namespace MarkSweep.Derive.Reader

variable (within : Within)

def arguments : Reader Unit := discard (group .paren (listed within.value))

def memberAccess : Reader Unit := do
  if let .leaf (.literal text) :: _ ← trees then
    if Literal.isFractional text then
      match Literal.places? text with
      | .error description => refuse description
      | .ok (places, goesOn) =>
        take 1 (Word.plain ((places.map toString).intersperse "."))
        unless goesOn do return
        emit ["."]
  if ← word? "await" then return
  if ← member then
    let chosen ← mark? "::"
    if chosen then genericArguments within
    if chosen || atGroup .paren (← trees) then arguments within

def trailer (behindRange : Bool) : Reader Bool := do
  let ts ← trees
  if atGroup .paren ts then arguments within
  else if atGroup .bracket ts then group .bracket within.value
  else if atPoint ts && !behindRange then
    mark "."
    memberAccess within
  else if atMark "?" ts && !behindRange then mark "?"
  else return false
  return true

def trailed (form : ExpressionForm) : Reader ExpressionForm := do
  unless ← trailer within (form.kind == .range) do return form
  repeatWhile (trailer within false)
  return {}

def atClosure (ts : List Tree) : Bool :=
  let next := ts.tail
  atMark "|" ts || atAnyWord ["move", "static"] ts || (atWord "for" ts && atParameters next) ||
    (atWord "const" ts && !atGroup .brace next) ||
    (atWord "async" ts && (atMark "|" next || atWord "move" next))

def closureArgument : Reader Unit := do
  let attributes ← attributeWords within
  let (form, words) ← capture within.pattern
  let typed := atMark ":" (← trees)
  if typed || form != .raw then emit attributes
  emit words
  if typed then
    mark ":"
    within.anyType

def closure (braces : Bool) : Reader Unit := do
  discard (binder? within)
  for text in ["const", "static", "async", "move"] do discard (word? text)
  mark "|"
  discard (separatedUntil (atMark "|") "," (closureArgument within))
  mark "|"
  if ← mark? "->" then
    within.anyType
    block within
  else discard (within.expression braces)

def fieldValue : Reader Unit := do
  discard (attributes within)
  let named ← member
  if atMark ":" (← trees) || !named then
    mark ":"
    within.value

def fieldValues : Reader Unit := group .brace do
  repeatWhile do
    if (← trees).isEmpty then return false
    if ← mark? ".." then
      unless (← trees).isEmpty do within.value
      return false
    fieldValue within
    if (← trees).isEmpty then return false
    mark ","
    return true

def pathExpression (braces : Bool) : Reader ExpressionForm := do
  match ← invocation? (← qualifiedPath within true) with
  | some .brace => return ⟨.invocation, false⟩
  | some _ => return {}
  | none =>
    if braces && atGroup .brace (← trees) then fieldValues within
    return {}

def array : Reader Unit := group .bracket do
  if (← trees).isEmpty then return
  within.value
  let ts ← trees
  if ts.isEmpty then return
  if ← mark? ";" then within.value
  else if ← mark? "," then discard (listed within.value)
  else fail ("expected " ++ quoted "," ++ " or " ++ quoted ";")

def optionalValue : Reader Unit := do if atExpression (← trees) then within.value

def breakOut (braces : Bool) : Reader Unit := do
  word "break"
  let ts ← trees
  if atLifetime ts && atMark ":" ts.tail then
    within.value
    refuse "parentheses required"
  discard lifetime?
  if braces || !atGroup .brace (← trees) then optionalValue within

def fitting (braces : Bool) : Reader Unit := do
  word "let"
  discard (alternatives within)
  mark "="
  discard (within.extend braces .compare (← within.operand braces))

def subject : Reader Unit := discard (within.expression false)

def conditional : Reader Unit := repeatWhile do
  word "if"
  subject within
  block within
  unless ← word? "else" do return false
  if atWord "if" (← trees) then return true
  unless atGroup .brace (← trees) do failAmong [quoted "if", "curly braces"]
  block within
  return false

def repetition : Reader Unit := do
  if ← word? "while" then subject within
  else if ← word? "for" then
    discard (alternatives within)
    word "in"
    subject within
  else word "loop"
  body within

def labelled : Reader Unit := do
  discard lifetime
  mark ":"
  let ts ← trees
  if atAnyWord ["while", "for", "loop"] ts then repetition within
  else if atGroup .brace ts then body within
  else fail "expected loop or block expression"

def atBlockForm (ts : List Tree) : Bool :=
  let next := ts.tail
  atAnyWord ["if", "while", "loop", "match", "unsafe"] ts || atGroup .brace ts || atLifetime ts ||
    (atWord "for" ts && !atParameters next) ||
    (atAnyWord ["try", "const"] ts && atGroup .brace next)

def arm : Reader Unit := do
  discard (attributes within)
  discard (alternatives within)
  if ← word? "if" then within.value
  mark "=>"
  let form ← within.standing
  if form.kind == .block || (← trees).isEmpty then discard (mark? ",") else mark ","

def blockForm : Reader ExpressionForm := do
  let ts ← trees
  if atWord "if" ts then conditional within
  else if atAnyWord ["while", "for", "loop"] ts then repetition within
  else if ← word? "match" then
    subject within
    members within (arm within)
  else if ← word? "try" then block within
  else if atLifetime ts then labelled within
  else
    unless ← word? "unsafe" do discard (word? "const")
    body within
  return ⟨.block, false⟩

def leaving? (braces : Bool) : Reader Bool := do
  if atWord "break" (← trees) then breakOut within braces
  else if ← anyOf ["return", "yield"] then optionalValue within
  else if ← word? "continue" then discard lifetime?
  else return false
  return true

def atPathExpression (ts : List Tree) : Bool :=
  atPathWord ts || atAnyMark ["::", "<"] ts || (atWord "try" ts && atAnyMark ["!", "::"] ts.tail)

def distinctForm? (braces : Bool) : Reader (Option ExpressionForm) := do
  let ts ← trees
  if atWord "builtin" ts && atMark "#" ts.tail then
    builtin
    return some ⟨.raw, true⟩
  if ← word? "become" then
    within.value
    return some ⟨.raw, true⟩
  if atPathExpression ts then return some (← pathExpression within braces)
  if atBlockForm ts then return some (← blockForm within)
  if atMark ".." ts then
    rangeRight within braces
    return some ⟨.range, false⟩
  return none

def plainForm (braces : Bool) : Reader Unit := do
  let ts ← trees
  if atGroup .paren ts then arguments within
  else if atGroup .bracket ts then array within
  else if atWord "let" ts then fitting within braces
  else if ← leaving? within braces then pure ()
  else unless ← word? "_" do fail "expected an expression"

def atom (braces : Bool) : Reader ExpressionForm := do
  let ts ← trees
  if atLiteral ts then literal
  else if atWord "async" ts && atGroup .brace (pastWord "move" ts.tail) then
    word "async"
    discard (word? "move")
    block within
  else if atClosure ts then closure within braces
  else
    match ← rawIf (·.any (·.kind == .raw)) (distinctForm? within braces) with
    | some form => return form
    | none => plainForm within braces
  return {}

def placed (braces : Bool) : Reader Unit := do
  mark "&"
  let ts ← trees
  let raw := atWord "raw" ts && atAnyWord ["mut", "const"] ts.tail
  if raw then word "raw"
  unless ← word? "mut" do if raw then word "const"
  discard (within.operand braces)

def operandForm (braces : Bool) : Reader ExpressionForm := do
  let start ← trees
  let attributes ← attributeWords within
  let ts ← trees
  if atMark "&" ts then
    emit attributes
    placed within braces
    return {}
  for text in ["*", "!", "-"] do
    if atMark text ts then
      emit attributes
      mark text
      discard (within.operand braces)
      return {}
  let (form, words) ← capture (do trailed within (← atom within braces))
  if form.kind == .raw then emitSince start
  else
    if form.kind == .range && !attributes.isEmpty then
      refuse ("attributes are not allowed on range expressions starting with " ++ quoted "..")
    emit (attributes ++ words)
  return form

def standingForm : Reader ExpressionForm := do
  let attributes ← attributeWords within
  let ended := atBlockForm (← trees)
  let (form, words) ← capture (if ended then blockForm within else within.operand true)
  unless form.bare do emit attributes
  emit words
  unless ended do return ← within.extend true .jump form
  let ts ← trees
  unless atPoint ts || atMark "?" ts do return form
  within.extend true .jump (← trailed within form)

end MarkSweep.Derive.Reader

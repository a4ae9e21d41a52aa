import MarkSweep.Derive.Reader.Expression

namespace MarkSweep.Derive.Reader

def afterAttributes : List Tree → List Tree
  | .leaf (.mark '#' _) :: .group .bracket _ :: ts => afterAttributes ts
  | ts => ts

def atNamedInvocation (ts : List Tree) : Bool :=
  (afterPlainPath? ts).any fun rest =>
    atMark "!" rest && (atName rest.tail || atWord "try" rest.tail)

def atBracedInvocation (ts : List Tree) : Bool :=
  (afterPlainPath? ts).any fun rest =>
    let behind := rest.tail.tail
    atMark "!" rest && atGroup .brace rest.tail && !atPoint behind && !atMark "?" behind

def functionWords : List String := ["unsafe", "extern", "fn"]

def atStatic (ts : List Tree) : Bool :=
  let next := ts.tail
  atWord "static" ts && (atWord "mut" next || atName next)

def atConstant (ts : List Tree) : Bool :=
  let next := ts.tail
  atWord "const" ts && !(atGroup .brace next || atAnyWord ["static", "move"] next ||
    atMark "|" next || (atWord "async" next && !atAnyWord functionWords next.tail))

def declarationWords : List String :=
  ["pub", "extern", "use", "fn", "mod", "type", "struct", "enum", "trait", "impl", "macro"]

def atDeclaration (ts : List Tree) : Bool :=
  let next := ts.tail
  atAnyWord declarationWords ts || (atWord "crate" ts && !atMark "::" next) || atStatic ts ||
    atConstant ts || (atWord "unsafe" ts && !atGroup .brace next) ||
    (atWord "async" ts && atAnyWord functionWords next) || (atWord "union" ts && atName next) ||
    (atWord "auto" ts && atWord "trait" next) ||
    (atWord "default" ts && atAnyWord ["unsafe", "impl"] next) || atNamedInvocation ts

variable (within : Within)

def invocationStatement : Reader Unit := do
  plainPath
  mark "!"
  discard anyGroup
  discard (mark? ";")

def variableStatement : Reader Unit := do
  word "let"
  discard within.pattern
  if ← mark? ":" then within.anyType
  if ← mark? "=" then
    within.value
    unless (← cursor).words.head?.any (·.text == "\x7d") do
      if ← word? "else" then block within
  mark ";"

def expressionStatement : Reader Bool := do
  let attributes ← attributeWords within
  let (form, words) ← capture within.standing
  unless form.bare do emit attributes
  emit words
  if ← mark? ";" then return false
  return form.kind != .block && form.kind != .invocation

def statement : Reader Bool := do
  let ts := afterAttributes (← trees)
  if atBracedInvocation ts then
    discard (attributes within)
    invocationStatement
  else if atWord "let" ts then
    discard (attributes within)
    variableStatement within
  else if atDeclaration ts then within.declaration
  else return ← expressionStatement within
  return false

def statementsForm : Reader Unit := repeatWhile do
  repeatWhile (mark? ";")
  if (← trees).isEmpty then return false
  let last ← statement within
  if (← trees).isEmpty then return false
  if last then fail ("unexpected token, expected " ++ quoted ";")
  return true

end MarkSweep.Derive.Reader

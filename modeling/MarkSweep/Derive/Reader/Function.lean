import MarkSweep.Derive.Reader.Field

namespace MarkSweep.Derive.Reader

def atFunctionItem (safe : Bool) (ts : List Tree) : Bool :=
  let ts := pastWord "async" (pastWord "const" ts)
  let ts := if safe && atWord "safe" ts then ts.tail else pastWord "unsafe" ts
  let rest := if atString ts.tail then ts.tail.tail else ts.tail
  atWord "fn" (if atWord "extern" ts then rest else ts)

variable (within : Within)

def receiver : Reader Unit := do
  let byReference ← mark? "&"
  if byReference then discard lifetime?
  discard (word? "mut")
  word "self"
  unless byReference do
    if ← mark? ":" then within.anyType

inductive FunctionParameter where
  | receiver
  | plain
  | variadic
deriving DecidableEq, Repr

def functionParameter : Reader FunctionParameter := do
  if ← mark? "..." then return .variadic
  if (← attempt (receiver within)).isSome then return .receiver
  let ts ← trees
  if atName ts && atMark "<" ts.tail then
    emit (Word.plain ["_", ":"])
    within.anyType
    return .plain
  discard within.pattern
  mark ":"
  if ← mark? "..." then return .variadic
  within.anyType
  return .plain

def functionParametersAtMost (first received : Bool) : Nat → Reader Unit
  | 0 => pure ()
  | n + 1 => do
    if (← trees).isEmpty then return
    discard (attributes within)
    let found ← functionParameter within
    if found = .receiver && received then refuse "unexpected second method receiver"
    if found = .receiver && !first then refuse "unexpected method receiver"
    if (← trees).isEmpty then return
    mark ","
    unless found = .variadic do
      functionParametersAtMost false (received || found = .receiver) n

def signature (safe : Bool) : Reader Bool := do
  for text in ["const", "async"] do discard (word? text)
  let unsafely ← word? "unsafe"
  let marked ← if safe && !unsafely then word? "safe" else pure false
  discard foreign?
  word "fn"
  discard name
  discard (parameters within)
  group .paren do functionParametersAtMost within true false ((← trees).length + 1)
  if ← mark? "->" then within.anyType
  discard (whereClause within)
  return marked

end MarkSweep.Derive.Reader

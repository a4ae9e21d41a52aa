import MarkSweep.Derive.Reader.Pattern

namespace MarkSweep.Derive.Reader

def operators : List (String × Level) := [("+=", .assign), ("-=", .assign), ("*=", .assign),
  ("/=", .assign), ("%=", .assign), ("^=", .assign), ("&=", .assign), ("|=", .assign),
  ("<<=", .assign), (">>=", .assign), ("&&", .and), ("||", .or), ("<<", .shift), (">>", .shift),
  ("==", .compare), ("<=", .compare), ("!=", .compare), (">=", .compare), ("+", .sum), ("-", .sum),
  ("*", .product), ("/", .product), ("%", .product), ("^", .bitXor), ("&", .bitAnd),
  ("|", .bitOr), ("<", .compare), (">", .compare)]

def operator? (ts : List Tree) : Option (String × Level) :=
  operators.find? fun (text, _) => atMark text ts

def atAssignment (ts : List Tree) : Bool := atMarkNot "=" ["=>"] ts

def nextLevel (ts : List Tree) : Level :=
  match operator? ts with
  | some (_, level) => level
  | none =>
    if atAssignment ts then .assign
    else if atMark ".." ts then .range
    else if atWord "as" ts then .cast
    else .jump

def atExpression (ts : List Tree) : Bool :=
  (atAnyName ts && !atWord "as" ts) || atAnyGroup ts || atLiteral ts || atLifetime ts ||
    atMarkNot "!" ["!="] ts || atMarkNot "-" ["-=", "->"] ts || atMarkNot "*" ["*="] ts ||
    atMarkNot "|" ["|="] ts || atMarkNot "&" ["&="] ts || atMarkNot "<" ["<=", "<<="] ts ||
    atAnyMark ["..", "::", "#"] ts

def atRangeEnd (braces : Bool) (ts : List Tree) : Bool :=
  ts.isEmpty || atPoint ts || (!braces && atGroup .brace ts) || atWord "as" ts ||
    atAnyMark [",", ";", "?", "=>", "=", "+", "/", "%", "^", ">", "<=", "!=", "-=", "*=", "&=",
      "|=", "<<="] ts

def castFollower? (ts : List Tree) : Option String :=
  let next := ts.tail
  if atPoint ts then
    if atWord "await" next then some (quoted ".await")
    else if atName next && (atGroup .paren next.tail || atMark "::" next.tail) then
      some "a method call"
    else some "a field access"
  else if atMark "?" ts then some (quoted "?")
  else if atGroup .bracket ts then some "indexing"
  else if atGroup .paren ts then some "a function call"
  else none

variable (within : Within) (braces : Bool)

def rightAtMost (level : Level) : Nat → ExpressionForm → Reader Unit
  | 0, _ => pure ()
  | n + 1, form => do
    let ts ← trees
    let next := nextLevel ts
    if level < next ∨ (next = level ∧ level = .assign) then
      let form ← within.extend braces next form
      if (← trees).length < ts.length then rightAtMost level n form

def rightSide (level : Level) : Reader Unit := do
  let form ← within.operand braces
  rightAtMost within braces level ((← trees).length + 1) form

def rangeRight : Reader Unit := do
  let closed ← rangeMark false
  unless !closed && atRangeEnd braces (← trees) do rightSide within braces .range

def extended? (base : Level) (form : ExpressionForm) : Reader (Option ExpressionForm) := do
  let ts ← trees
  if form.kind == .range then return none
  match operator? ts with
  | some (text, level) =>
    if level < base then return none
    if level = .compare && form.kind == .comparison then
      fail "comparison operators cannot be chained"
    mark text
    rightSide within braces level
    return some ⟨if level = .compare then .comparison else .plain, form.bare⟩
  | none =>
    if base ≤ .assign && atAssignment ts then
      mark "="
      rightSide within braces .assign
      return some ⟨.plain, form.bare⟩
    if base ≤ .range && atMark ".." ts then
      rangeRight within braces
      return some ⟨.range, false⟩
    if base ≤ .cast && atWord "as" ts then
      word "as"
      discard (within.type false)
      if let some follower := castFollower? (← trees) then
        fail ("casts cannot be followed by " ++ follower)
      return some ⟨.plain, form.bare⟩
    return none

def extendAtMost (base : Level) : Nat → ExpressionForm → Reader ExpressionForm
  | 0, form => return form
  | n + 1, form => do
    match ← extended? within braces base form with
    | some form => extendAtMost base n form
    | none => return form

def extendForm (base : Level) (form : ExpressionForm) : Reader ExpressionForm := do
  extendAtMost within braces base ((← trees).length + 1) form

end MarkSweep.Derive.Reader

namespace MarkSweep.Derive.Literal

def isString (text : String) : Bool :=
  match text.toList.head? with
  | some c => c == '"' || c == 'r'
  | none => false

def isNumber (text : String) : Bool := text.toList.head?.any Char.isDigit

def isExponent (cs : List Char) : Bool :=
  let run := cs.takeWhile fun c => c.isDigit || c == '_'
  match cs.drop run.length with
  | '+' :: _ => true
  | '-' :: _ => true
  | _ => run.any Char.isDigit

def digit? (base : Nat) (c : Char) : Option Nat :=
  if c.isDigit then some (c.toNat - '0'.toNat)
  else if base = 16 ∧ 'a' ≤ c ∧ c ≤ 'f' then some (c.toNat - 'a'.toNat + 10)
  else if base = 16 ∧ 'A' ≤ c ∧ c ≤ 'F' then some (c.toNat - 'A'.toNat + 10)
  else none

def digits? (base value : Nat) : List Char → Option (Nat × List Char)
  | [] => some (value, [])
  | c :: cs =>
    if c = '_' then digits? base value cs
    else
      match digit? base c with
      | some d => if d < base then digits? base (base * value + d) cs else none
      | none =>
        if base = 10 ∧ (c = '.' ∨ (c ∈ ['e', 'E'] ∧ isExponent cs)) then none
        else some (value, c :: cs)

def whole? (text : String) : Option (Nat × List Char) :=
  match text.toList with
  | '0' :: 'x' :: cs => digits? 16 0 cs
  | '0' :: 'o' :: cs => digits? 8 0 cs
  | '0' :: 'b' :: cs => digits? 2 0 cs
  | cs => if cs.head?.any Char.isDigit then digits? 10 0 cs else none

def isWhole (text : String) : Bool := (whole? text).isSome

def isFractional (text : String) : Bool := isNumber text && !isWhole text

def place? (text : String) : Except String Nat :=
  match whole? text with
  | some (value, []) =>
    if value < 0x100000000 then .ok value else .error "number too large to fit in target type"
  | some _ => .error "expected unsuffixed integer"
  | none => .error "expected integer literal"

def places? (text : String) : Except String (List Nat × Bool) := do
  let parts := text.splitOn "."
  let open? := parts.length > 1 && parts.getLast? == some ""
  let places ← (if open? then parts.dropLast else parts).mapM place?
  return (places, open?)

end MarkSweep.Derive.Literal

import MarkSweep.Derive.Quoted
import MarkSweep.Derive.Token

/-!
The lexemes at the start of a text, given by the number of their characters. A literal is looked
for before a mark and a mark before a name, so that `b"x"` is one literal and `'a'` no lifetime.
-/

namespace MarkSweep.Derive.Lexeme

open Letter

def startsWith (text : String) (cs : List Char) : Bool := text.toList.isPrefixOf cs

/-! ### Names -/

def name : List Char → Nat
  | c :: cs => if isStart c then (cs.takeWhile isContinue).length + 1 else 0
  | [] => 0

def neverRaw : List String := ["_", "self", "Self", "super", "crate"]

def rawOrName? : List Char → Option Nat
  | 'r' :: '#' :: cs =>
    let n := name cs
    if n = 0 ∨ String.ofList (cs.take n) ∈ neverRaw then none else some (n + 2)
  | cs => if name cs = 0 then none else some (name cs)

def literalStarts : List String :=
  ["r\"", "r#\"", "r##", "b\"", "b'", "br\"", "br#", "c\"", "cr\"", "cr#"]

def name? (cs : List Char) : Option Nat :=
  if literalStarts.any (startsWith · cs) then none else rawOrName? cs

/-! ### Quoted literals -/

inductive Style where
  | text
  | bytes
  | terminated
deriving DecidableEq

def Style.allows (style : Style) (c : Char) (next : List Char) : Bool :=
  (c != '\r' || next.head? == some '\n') &&
  match style with
  | text => true
  | bytes => c.toNat < 128
  | terminated => c.toNat != 0

def isHex (c : Char) : Bool := c.isDigit || ('a' ≤ c && c ≤ 'f') || ('A' ≤ c && c ≤ 'F')

def hexValue (cs : List Char) : Nat :=
  cs.foldl (fun n c => 16 * n +
    if c.isDigit then c.toNat - '0'.toNat else c.toLower.toNat - 'a'.toNat + 10) 0

def codePoint? (style : Style) : List Char → Option Nat
  | '\x7b' :: cs =>
    let run := cs.takeWhile fun c => isHex c || c == '_'
    let digits := run.filter isHex
    let value := hexValue digits
    if run.head?.any isHex ∧ digits.length ≤ 6 ∧ (cs.drop run.length).head? = some '\x7d' ∧
        value.isValidChar ∧ (style = .terminated → value ≠ 0)
    then some (run.length + 2) else none
  | _ => none

def escape? (style : Style) : List Char → Option Nat
  | 'x' :: a :: b :: _ =>
    if isHex a ∧ isHex b ∧ (style = .text → '0' ≤ a ∧ a ≤ '7') ∧
        (style = .terminated → ¬(a = '0' ∧ b = '0'))
    then some 3 else none
  | 'u' :: cs => if style = .bytes then none else (codePoint? style cs).map (· + 1)
  | '0' :: _ => if style = .terminated then none else some 1
  | c :: _ => if c ∈ ['n', 'r', 't', '\\', '\'', '"'] then some 1 else none
  | [] => none

def cleanBreaks : List Char → Bool
  | c :: cs => (c != '\r' || cs.head? == some '\n') && cleanBreaks cs
  | [] => true

def continuation? (cs : List Char) : Option Nat :=
  if cs.head?.any (· ∈ ['\n', '\r']) then
    let run := cs.takeWhile (· ∈ [' ', '\t', '\n', '\r'])
    if cleanBreaks run then some run.length else none
  else some 0

def backslashed? (style : Style) (cs : List Char) : Option Nat :=
  match continuation? cs with
  | some 0 => escape? style cs
  | found => found

def quoted? (style : Style) : List Char → Option Nat
  | [] => none
  | '\\' :: cs =>
    match backslashed? style cs with
    | some n => (quoted? style (cs.drop n)).map (· + (n + 1))
    | none => none
  | c :: cs =>
    if c = '"' then some 1
    else if style.allows c cs then (quoted? style cs).map (· + 1)
    else none
termination_by cs => cs.length

def rawBody? (style : Style) (closing : List Char) : List Char → Option Nat
  | [] => none
  | c :: cs =>
    if closing.isPrefixOf (c :: cs) then some closing.length
    else if style.allows c cs then (rawBody? style closing cs).map (· + 1)
    else none

def raw? (style : Style) (cs : List Char) : Option Nat :=
  let hashes := cs.takeWhile (· == '#')
  match cs.drop hashes.length with
  | '"' :: body =>
    if hashes.length ≤ 255 then
      (rawBody? style ('"' :: hashes) body).map (· + (hashes.length + 1))
    else none
  | _ => none

def character? (style : Style) : List Char → Option Nat
  | '\\' :: cs => do
    let n ← escape? style cs
    if (cs.drop n).head? = some '\'' then some (n + 2) else none
  | c :: '\'' :: _ => if style = .bytes ∧ 128 ≤ c.toNat then none else some 2
  | _ => none

def quotedLiteral? : List Char → Option Nat
  | '"' :: cs => (quoted? .text cs).map (· + 1)
  | 'r' :: cs => (raw? .text cs).map (· + 1)
  | 'b' :: '"' :: cs => (quoted? .bytes cs).map (· + 2)
  | 'b' :: 'r' :: cs => (raw? .bytes cs).map (· + 2)
  | 'c' :: '"' :: cs => (quoted? .terminated cs).map (· + 2)
  | 'c' :: 'r' :: cs => (raw? .terminated cs).map (· + 2)
  | 'b' :: '\'' :: cs => (character? .bytes cs).map (· + 2)
  | '\'' :: cs => (character? .text cs).map (· + 1)
  | _ => none

/-! ### Numbers -/

def digits (cs : List Char) : List Char := cs.takeWhile fun c => c.isDigit || c == '_'

def exponent? (cs : List Char) : Option Nat :=
  let run := digits cs
  if run.any Char.isDigit then some run.length
  else
    match cs.drop run.length with
    | c :: rest =>
      let signed := digits rest
      if c ∈ ['+', '-'] ∧ signed.any Char.isDigit then some (run.length + 1 + signed.length)
      else none
    | [] => none

def exponentAt? : List Char → Option Nat
  | c :: cs => if c ∈ ['e', 'E'] then (exponent? cs).map (· + 1) else none
  | [] => none

def fractional? (cs : List Char) : Option Nat :=
  if cs.head?.any Char.isDigit then
    let whole := (digits cs).length
    match cs.drop whole with
    | '.' :: rest =>
      if rest.head?.any fun c => c == '.' || isStart c then none
      else
        let n := whole + 1 + (digits rest).length
        some (n + (exponentAt? (cs.drop n)).getD 0)
    | rest => (exponentAt? rest).map (whole + ·)
  else none

def basedDigits? (base : Nat) (cs : List Char) : Option Nat :=
  let run := cs.takeWhile fun c => c.isDigit || c == '_' || (base == 16 && isHex c)
  if (run.any fun c => c.isDigit && base ≤ c.toNat - '0'.toNat) || run.all (· == '_') then none
  else some run.length

def whole? : List Char → Option Nat
  | '0' :: 'x' :: cs => (basedDigits? 16 cs).map (· + 2)
  | '0' :: 'o' :: cs => (basedDigits? 8 cs).map (· + 2)
  | '0' :: 'b' :: cs => (basedDigits? 2 cs).map (· + 2)
  | cs => if cs.head?.any Char.isDigit then basedDigits? 10 cs else none

def suffixed (cs : List Char) (n : Nat) : Nat := n + name (cs.drop n)

def numberEnd? (cs : List Char) (n : Nat) : Option Nat :=
  if (cs.drop (suffixed cs n)).head?.any isContinue then none else some (suffixed cs n)

def literal? (cs : List Char) : Option Nat :=
  (quotedLiteral? cs).map (suffixed cs) <|> (fractional? cs).bind (numberEnd? cs) <|>
    (whole? cs).bind (numberEnd? cs)

/-! ### Marks and lifetimes -/

def marks : List Char := "~!@#$%^&*-=+|;:,<.>/?'".toList

def mark? (cs : List Char) : Option Char :=
  if startsWith "//" cs || startsWith "/*" cs then none else cs.head?.filter (· ∈ marks)

def lifetime? : List Char → Option Nat
  | '\'' :: cs => do
    let n ← rawOrName? cs
    let next := (cs.drop n).head?
    if next = some '\'' ∨ (next = some '#' ∧ !startsWith "r#" cs) then none else some (n + 1)
  | _ => none

def token? (cs : List Char) : Option (Token × Nat) :=
  let text (n : Nat) : String := String.ofList (cs.take n)
  match literal? cs, mark? cs with
  | some n, _ => some (.literal (text n), n)
  | none, some c =>
    if c = '\'' then (lifetime? cs).map fun n => (.lifetime (text n), n)
    else some (.mark c (mark? cs.tail).isSome, 1)
  | none, none => (name? cs).map fun n => (.name (text n), n)

/-! ### Blanks and comments -/

def comment? (depth : Nat) : List Char → Option Nat
  | '/' :: '*' :: cs => (comment? (depth + 1) cs).map (· + 2)
  | '*' :: '/' :: cs => if depth ≤ 1 then some 2 else (comment? (depth - 1) cs).map (· + 2)
  | _ :: cs => (comment? depth cs).map (· + 1)
  | [] => none

def line (cs : List Char) : List Char := cs.takeWhile (· != '\n')

def isDocLine (cs : List Char) : Bool :=
  (startsWith "///" cs && !startsWith "////" cs) || startsWith "//!" cs

def isDocBlock (cs : List Char) : Bool :=
  (startsWith "/**" cs && !startsWith "/***" cs && !startsWith "/**/" cs) || startsWith "/*!" cs

def blank? (cs : List Char) : Option Nat :=
  if cs.head?.any isBlank then some 1
  else if startsWith "//" cs && !isDocLine cs then some (line cs).length
  else if startsWith "/*" cs && !isDocBlock cs then comment? 0 cs
  else none

def documentation (inner : Bool) (text : List Char) : List Tree.Piece :=
  [.token (.mark '#' false)] ++ (if inner then [.token (.mark '!' false)] else []) ++
  [.opening .bracket, .token (.name "doc"), .token (.mark '=' false),
    .token (.literal (Quoted.literal text)), .closing .bracket]

def documentation? (cs : List Char) : Option (List Tree.Piece × Nat) := do
  let (text, n) ←
    if isDocLine cs then
      let text := (line cs).drop 3
      let ended := (line cs).length < cs.length
      let text := if ended && text.getLast? == some '\r' then text.dropLast else text
      some (text, (line cs).length)
    else if isDocBlock cs then
      (comment? 0 cs).map fun n => ((cs.take (n - 2)).drop 3, n)
    else none
  if cleanBreaks text then some (documentation (cs[2]? == some '!') text, n) else none

def delimiter? (cs : List Char) : Option Tree.Piece :=
  match cs.head? with
  | some '(' => some (.opening .paren)
  | some '[' => some (.opening .bracket)
  | some '\x7b' => some (.opening .brace)
  | some ')' => some (.closing .paren)
  | some ']' => some (.closing .bracket)
  | some '\x7d' => some (.closing .brace)
  | _ => none

/-- The pieces that the first characters of a text stand for, and the number of these. -/
def first? (cs : List Char) : Option (List Tree.Piece × Nat) :=
  (blank? cs).map (fun n => ([], n)) <|> documentation? cs <|>
    (delimiter? cs).map (fun p => ([p], 1)) <|>
    (token? cs).map fun (t, n) => ([.token t], n)

def pieces? : List Char → Option (List Tree.Piece)
  | [] => some []
  | c :: cs => do
    let (ps, n) ← first? (c :: cs)
    let rest ← pieces? (cs.drop (n - 1))
    some (ps ++ rest)
termination_by cs => cs.length
decreasing_by simp only [List.length_drop, List.length_cons]; omega

end MarkSweep.Derive.Lexeme

namespace MarkSweep.Derive

/-- The trees of a text, if it consists of tokens and its delimiters match. A byte order mark may
stand in front. -/
def Tree.ofText? (text : String) : Option (List Tree) :=
  let cs := text.toList
  (Lexeme.pieces? (if cs.head? = some '\ufeff' then cs.tail else cs)).bind gather

end MarkSweep.Derive

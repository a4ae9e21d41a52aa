import MarkSweep.Derive.Literal
import MarkSweep.Derive.Token

namespace MarkSweep.Derive.Reader

def afterMark? : List Char → List Tree → Option (List Tree)
  | [], ts => some ts
  | [c], .leaf (.mark d _) :: ts => if c = d then some ts else none
  | c :: cs, .leaf (.mark d true) :: ts => if c = d then afterMark? cs ts else none
  | _, _ => none

def atMark (text : String) (ts : List Tree) : Bool := (afterMark? text.toList ts).isSome

def atAnyMark (texts : List String) (ts : List Tree) : Bool := texts.any (atMark · ts)

def atMarkNot (text : String) (others : List String) (ts : List Tree) : Bool :=
  atMark text ts && !atAnyMark others ts

def atPoint (ts : List Tree) : Bool := atMarkNot "." [".."] ts

def atColon (ts : List Tree) : Bool := atMarkNot ":" ["::"] ts

def keywords : List String := ["_", "abstract", "as", "async", "await", "become", "box", "break",
  "const", "continue", "crate", "do", "dyn", "else", "enum", "extern", "false", "final", "fn",
  "for", "if", "impl", "in", "let", "loop", "macro", "match", "mod", "move", "mut", "override",
  "priv", "pub", "ref", "return", "Self", "self", "static", "struct", "super", "trait", "true",
  "try", "type", "typeof", "unsafe", "unsized", "use", "virtual", "where", "while", "yield"]

def atAnyName : List Tree → Bool
  | .leaf (.name _) :: _ => true
  | _ => false

def atWord (word : String) : List Tree → Bool
  | .leaf (.name text) :: _ => text == word
  | _ => false

def atAnyWord (words : List String) (ts : List Tree) : Bool := words.any (atWord · ts)

def atName : List Tree → Bool
  | .leaf (.name text) :: _ => text ∉ keywords
  | _ => false

def atLifetime : List Tree → Bool
  | .leaf (.lifetime _) :: _ => true
  | _ => false

def atLiteral : List Tree → Bool
  | .leaf (.literal _) :: _ => true
  | .leaf (.name text) :: _ => text == "true" || text == "false"
  | .leaf (.mark '-' _) :: .leaf (.literal text) :: _ => Literal.isNumber text
  | _ => false

def atString : List Tree → Bool
  | .leaf (.literal text) :: _ => Literal.isString text
  | _ => false

def atGroup (d : Delimiter) : List Tree → Bool
  | .group e _ :: _ => d == e
  | _ => false

def atAnyGroup : List Tree → Bool
  | .group _ _ :: _ => true
  | _ => false

def pastWord (word : String) (ts : List Tree) : List Tree := if atWord word ts then ts.tail else ts

def pathWords : List String := ["super", "self", "Self", "crate"]

def atPathWord (ts : List Tree) : Bool := atName ts || atAnyWord pathWords ts

def afterNames? : List Tree → Option (List Tree)
  | t :: .leaf (.mark ':' true) :: .leaf (.mark ':' _) :: ts =>
    if atPathWord [t] then afterNames? ts else none
  | t :: ts => if atPathWord [t] then some ts else none
  | [] => none

def afterPlainPath? (ts : List Tree) : Option (List Tree) :=
  afterNames? ((afterMark? [':', ':'] ts).getD ts)

def atParameters (ts : List Tree) : Bool :=
  let first := ts.tail
  let next := first.tail
  atMark "<" ts && (atAnyMark [">", "#"] first || atWord "const" first ||
    ((atLifetime first || atName first) && (atAnyMark [">", ",", "="] next || atColon next)))

end MarkSweep.Derive.Reader

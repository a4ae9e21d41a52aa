/-!
Token trees: text cut into tokens, with what stands between two delimiters as one tree. Their words
are the tokens in order, each mark a word of its own that may be joined to the next one.
-/

namespace MarkSweep.Derive

structure Word where
  text : String
  joint : Bool := false
deriving DecidableEq, Repr

namespace Word

instance : Coe String Word := ⟨fun text => { text }⟩

def plain (texts : List String) : List Word := texts.map fun text => { text }

def pieces : List Word → List String
  | [] => []
  | [w] => [w.text]
  | w :: ws => w.text :: (if w.joint then "" else " ") :: pieces ws

def line (ws : List Word) : String := String.join (pieces ws)

end Word

inductive Delimiter where
  | paren
  | bracket
  | brace
deriving DecidableEq, Repr

namespace Delimiter

def opening : Delimiter → Word
  | paren => "("
  | bracket => "["
  | brace => "\x7b"

def closing : Delimiter → Word
  | paren => ")"
  | bracket => "]"
  | brace => "\x7d"

end Delimiter

inductive Token where
  | name (text : String)
  | lifetime (text : String)
  | literal (text : String)
  | mark (c : Char) (joint : Bool)
deriving DecidableEq, Repr

def Token.word : Token → Word
  | name text => text
  | lifetime text => text
  | literal text => text
  | mark c joint => ⟨c.toString, joint⟩

inductive Tree where
  | leaf (t : Token)
  | group (d : Delimiter) (inside : List Tree)
deriving Repr

namespace Tree

def count : List Tree → Nat
  | [] => 0
  | leaf _ :: ts => count ts + 1
  | group _ inside :: ts => count inside + count ts + 1

def words : List Tree → List Word
  | [] => []
  | leaf t :: ts => t.word :: words ts
  | group d inside :: ts => d.opening :: (words inside ++ d.closing :: words ts)

inductive Piece where
  | token (t : Token)
  | opening (d : Delimiter)
  | closing (d : Delimiter)
deriving Repr

structure Partial where
  trees : List Tree := []
  outer : List (Delimiter × List Tree) := []

def Partial.add (p : Partial) : Piece → Option Partial
  | .token t => some { p with trees := leaf t :: p.trees }
  | .opening d => some ⟨[], (d, p.trees) :: p.outer⟩
  | .closing d =>
    match p.outer with
    | (e, trees) :: outer => if d = e then some ⟨group d p.trees.reverse :: trees, outer⟩ else none
    | [] => none

def gather (ps : List Piece) : Option (List Tree) := do
  let done ← ps.foldlM Partial.add {}
  if done.outer.isEmpty then some done.trees.reverse else none

end Tree

end MarkSweep.Derive

import MarkSweep.Derive.Token

namespace MarkSweep.Derive

structure Separated (α : Type) where
  items : List α := []
  trailing : Bool := false
deriving DecidableEq, Repr

namespace Separated

variable {α : Type}

def pairsOf (trailing : Bool) : List α → List (α × Bool)
  | [] => []
  | [a] => [(a, trailing)]
  | a :: b :: as => (a, true) :: pairsOf trailing (b :: as)

def pairs (s : Separated α) : List (α × Bool) := pairsOf s.trailing s.items

def push (s : Separated α) (a : α) : Separated α := ⟨s.items ++ [a], false⟩

def pairWords (mark : String) (words : α → List Word) (p : α × Bool) : List Word :=
  words p.1 ++ if p.2 then Word.plain [mark] else []

def words (mark : String) (words : α → List Word) (s : Separated α) : List Word :=
  s.pairs.flatMap (pairWords mark words)

/-- The words of a list in which some items come first, wherever they stand. Each keeps its comma,
and one is put between the two parts if the first ends without. -/
def wordsFirst (first : α → Bool) (words : α → List Word) (s : Separated α) : List Word :=
  let (early, late) := s.pairs.partition fun p => first p.1
  let unclosed := early.getLast?.any fun p => !p.2
  early.flatMap (pairWords "," words) ++ (if unclosed && !late.isEmpty then Word.plain [","] else []) ++
    late.flatMap (pairWords "," words)

end Separated

end MarkSweep.Derive

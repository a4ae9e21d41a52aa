import MarkSweep.Derive.Item
import MarkSweep.Derive.Reader.Basic

namespace MarkSweep.Derive.Reader

inductive TypeForm where
  | name
  | path
  | bound (parenthesised : Bool)
  | other
deriving DecidableEq, Repr

inductive BoundPlace where
  | subject
  | object
  | hidden
deriving DecidableEq, Repr

inductive PatternForm where
  | openRange
  | raw
  | other
deriving DecidableEq, Repr

inductive Level where
  | jump
  | assign
  | range
  | or
  | and
  | binding
  | compare
  | bitOr
  | bitXor
  | bitAnd
  | shift
  | sum
  | product
  | cast
deriving DecidableEq, Repr

namespace Level

def rank : Level → Nat
  | jump => 0
  | assign => 1
  | range => 2
  | or => 3
  | and => 4
  | binding => 5
  | compare => 6
  | bitOr => 7
  | bitXor => 8
  | bitAnd => 9
  | shift => 10
  | sum => 11
  | product => 12
  | cast => 13

instance : LT Level := ⟨fun a b => a.rank < b.rank⟩

instance : LE Level := ⟨fun a b => a.rank ≤ b.rank⟩

instance : DecidableLT Level := fun a b => inferInstanceAs (Decidable (a.rank < b.rank))

instance : DecidableLE Level := fun a b => inferInstanceAs (Decidable (a.rank ≤ b.rank))

end Level

inductive ExpressionKind where
  | plain
  | range
  | comparison
  | block
  | invocation
  | raw
deriving DecidableEq, Repr

structure ExpressionForm where
  kind : ExpressionKind := .plain
  bare : Bool := false
deriving DecidableEq, Repr

structure Within where
  type : Bool → Reader TypeForm
  bound : BoundPlace → Reader Bound
  operand : Bool → Reader ExpressionForm
  extend : Bool → Level → ExpressionForm → Reader ExpressionForm
  standing : Reader ExpressionForm
  pattern : Reader PatternForm
  fields : Reader (List Field)
  statements : Reader Unit
  declaration : Reader Unit

namespace Within

def expression (within : Within) (braces : Bool) : Reader ExpressionForm := do
  within.extend braces .jump (← within.operand braces)

def value (within : Within) : Reader Unit := discard (within.expression true)

def anyType (within : Within) : Reader Unit := discard (within.type true)

end Within

end MarkSweep.Derive.Reader

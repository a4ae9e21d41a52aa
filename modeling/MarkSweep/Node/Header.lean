import MarkSweep.Node.Kind

/-!
The header word of a node. From the low bit up it holds the mark (one bit), the kind (seven), a
secondary id (seven) and two flags (one each).
-/

namespace MarkSweep

inductive Flag where
  | one
  | two
deriving DecidableEq, Repr

def Flag.position : Flag → Nat
  | one => 15
  | two => 16

def Flag.mask (f : Flag) : BitVec 32 := 1#32 <<< f.position

structure Header where
  word : BitVec 32
deriving DecidableEq, Repr

namespace Header

def markMask : BitVec 32 := 1#32

def idMask : BitVec 32 := 0x7f#32

def ofKind (k : Kind) : Header := ⟨k.id.setWidth 32 <<< 1⟩

def withSecondary (h : Header) (sec : UInt8) : Header :=
  ⟨(h.word &&& ~~~(idMask <<< 8)) ||| ((sec.toBitVec.setWidth 32 &&& idMask) <<< 8)⟩

def kind (h : Header) : Kind := ⟨(h.word >>> 1).setWidth 7⟩

def secondary (h : Header) : BitVec 7 := (h.word >>> 8).setWidth 7

def isMarked (h : Header) : Bool := h.word &&& markMask != 0#32

def mark (h : Header) : Header := ⟨h.word ||| markMask⟩

def clearMark (h : Header) : Header := ⟨h.word &&& ~~~markMask⟩

def flag (h : Header) (f : Flag) : Bool := h.word &&& f.mask != 0#32

def setFlag (h : Header) (f : Flag) (value : Bool) : Header :=
  if value then ⟨h.word ||| f.mask⟩ else ⟨h.word &&& ~~~f.mask⟩

def describe (h : Header) : String :=
  "NodeHeader \x7b kind: " ++ h.kind.describe ++
    s!", secondary: {h.secondary.toNat}, marked: {h.isMarked}, flag_1: {h.flag .one}, " ++
    s!"flag_2: {h.flag .two} \x7d"

theorem and_twoPow_ne_zero (w : BitVec 32) (i : Nat) (hi : i < 32) :
    (w &&& 1#32 <<< i != 0#32) = w.getLsbD i := by
  have nonzero : BitVec.twoPow 32 i ≠ 0#32 := by
    intro zero
    have bit := congrArg (fun v => v.getLsbD i) zero
    simp [hi] at bit
  rw [← BitVec.twoPow_eq, BitVec.and_twoPow]
  cases w.getLsbD i <;> simp [nonzero]

theorem isMarked_eq (h : Header) : h.isMarked = h.word.getLsbD 0 :=
  and_twoPow_ne_zero h.word 0 (by decide)

theorem flag_eq (h : Header) (f : Flag) : h.flag f = h.word.getLsbD f.position :=
  and_twoPow_ne_zero h.word f.position (by cases f <;> decide)

end Header

end MarkSweep

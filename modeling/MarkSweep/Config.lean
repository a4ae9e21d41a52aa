import MarkSweep.Binary64

namespace MarkSweep

def defaultThreshold : Nat := 10 * 1024 * 1024

def defaultGrowth : Binary64 := .two

structure Config where
  threshold : Nat := defaultThreshold
  growth : Binary64 := defaultGrowth
  timeout : Option Nat := none
deriving DecidableEq, Repr, Inhabited

namespace Config

def timeoutOf (milliseconds : Nat) : Option Nat :=
  if milliseconds = 0 then none else some milliseconds

def withTimeout (c : Config) (milliseconds : Nat) : Config :=
  { c with timeout := timeoutOf milliseconds }

def manual : Config := { threshold := maxWord }

/-- The threshold after a collection that left `surviving` bytes. It grows only when the survivors
fill more than half of it. -/
def nextThreshold (c : Config) (current surviving : Nat) : Nat :=
  if c.growth.leOne || current == maxWord || surviving ≤ current / 2 then current
  else c.growth.scale current

theorem nextThreshold_maxWord (c : Config) (surviving : Nat) :
    c.nextThreshold maxWord surviving = maxWord := by
  simp [nextThreshold]

theorem nextThreshold_of_le_half {current surviving : Nat} (c : Config)
    (h : surviving ≤ current / 2) : c.nextThreshold current surviving = current := by
  simp [nextThreshold, h]

end Config

end MarkSweep

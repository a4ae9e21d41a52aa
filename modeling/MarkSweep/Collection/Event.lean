import MarkSweep.Collection.Metrics

namespace MarkSweep

inductive Phase where
  | clear
  | mark
  | sweep
  | weak
deriving DecidableEq, Repr

def Phase.display : Phase → String
  | clear => "Clear"
  | mark => "Mark"
  | sweep => "Sweep"
  | weak => "Weak"

inductive Deferral where
  | locked
  | rootBorrowed
deriving DecidableEq, Repr

def Deferral.display : Deferral → String
  | locked => "locked"
  | rootBorrowed => "root aggregate borrowed"

inductive Event where
  | enterCollect (trigger : Trigger) (id : Nat)
  | exitCollect
  | enterPhase (phase : Phase)
  | exitPhase
  | phaseStart (phase : Phase) (bytesBefore : Nat)
  | phaseEnd (phase : Phase) (amount : Nat)
  | deferred (reason : Deferral)
  | thresholdGrown (old new : Nat)
deriving DecidableEq, Repr

def Event.display : Event → String
  | enterCollect trigger id => s!"enter gc_collect trigger={trigger.display} gc_id={id}"
  | exitCollect => "exit gc_collect"
  | enterPhase phase => "enter gc_phase phase=" ++ phase.display
  | exitPhase => "exit gc_phase"
  | phaseStart phase bytes =>
    s!"event phase_start phase={phase.display} bytes_before={bytes}"
  | phaseEnd phase amount =>
    s!"event phase_end phase={phase.display} bytes_reclaimed={amount}"
  | deferred reason => "event collection_deferred reason=" ++ reason.display
  | thresholdGrown old new => s!"event threshold_grown old={old} new={new}"

end MarkSweep

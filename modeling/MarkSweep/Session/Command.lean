import MarkSweep.Config
import MarkSweep.Handle.KeepAlive
import MarkSweep.Handle.StringMap
import MarkSweep.Handle.Weak
import MarkSweep.Session.Shape

namespace MarkSweep

inductive SlotArg where
  | empty
  | scalar (value : UInt64)
  | node (name : String)
  | bits (name : String)
deriving DecidableEq, Repr

inductive ObjectArg where
  | chunk (bytes : ByteArray)
  | vector (slots : List SlotArg)

inductive KindArg where
  | known (kind : Kind)
  | byte (id : UInt8)
deriving DecidableEq, Repr

def KindArg.resolve : KindArg → Except Fault Kind
  | known kind => .ok kind
  | byte id => Kind.ofByte id

structure HeaderArg where
  kind : KindArg
  secondary : Option UInt8 := none
  flags : List Flag := []
  marked : Bool := false

def HeaderArg.resolve (h : HeaderArg) : Except Fault Header := do
  let plain := Header.ofKind (← h.kind.resolve)
  let second := match h.secondary with
    | some sec => plain.withSecondary sec
    | none => plain
  let flagged := h.flags.foldl (fun h f => h.setFlag f true) second
  pure (if h.marked then flagged.mark else flagged)

inductive ConfigBase where
  | manual
  | standard
  | defaults
deriving DecidableEq, Repr

structure ConfigArg where
  base : ConfigBase := .manual
  threshold : Option Nat := none
  growth : Option Binary64 := none
  timeout : Option Nat := none

def ConfigArg.resolve (a : ConfigArg) (defaults : Config) : Config :=
  let base : Config := match a.base with
    | .manual => .manual
    | .standard => {}
    | .defaults => defaults
  let set := { base with
    threshold := a.threshold.getD base.threshold
    growth := a.growth.getD base.growth }
  match a.timeout with
  | some milliseconds => set.withTimeout milliseconds
  | none => set

def ConfigArg.resolveForCollector (a : ConfigArg) (defaults : Config) : Config :=
  if a.base = .defaults then defaults else a.resolve defaults

inductive Op where
  | create (config : ConfigArg)
  | sameCollector (other : String)
  | describe
  | allocate (name : Option String) (header : HeaderArg) (object : ObjectArg)
  | intern (name : Option String) (text : String)
  | sleep (milliseconds : Nat)
  | rename (name node : String)
  | lock
  | unlock
  | trigger
  | tryTrigger
  | setTimeout (milliseconds : Nat)
  | timeout
  | config
  | setDefaults (config : ConfigArg)
  | defaults
  | latest
  | history
  | totals
  | events
  | inspect (node : String)
  | live (slots : List SlotArg)
  | describeHeader (node : String)
  | slot (node : String) (index : Nat)
  | text (node : String)
  | setSlot (node : String) (index : Nat) (value : SlotArg)
  | setSlotTrailed (node : String) (index : Nat) (value : SlotArg)
  | write (node : String) (start : Nat) (bytes : ByteArray)
  | setFlag (node : String) (flag : Flag) (value : Bool)
  | setSecondary (node : String) (sec : UInt8)
  | reference (node : String)
  | compare (a b : String)
  | findInterned (text : String)
  | checkpoint (name : Option String)
  | record (node : String) (index : Nat) (prior : SlotArg)
  | rollback
  | rollbackTo (mark : String)
  | commit
  | keep (name node : String)
  | keepGet (keep : String)
  | keepSet (keep node : String)
  | keepClone (name keep : String)
  | keepCloneFrom (keep source : String)
  | keepDrop (keep : String)
  | weak (name node : String)
  | weakClone (name weak : String)
  | weakGet (weak : String)
  | weakDrop (weak : String)
  | map (name : String)
  | mapInsert (map key value : String)
  | mapFind (map key : String)
  | mapRemove (map key : String)
  | mapClear (map : String)
  | mapEntries (map : String)
  | mapDrop (map : String)
  | stringMap (name : String)
  | stringInsert (map key : String) (value : List SlotArg)
  | stringGet (map key : String)
  | stringRemove (map key : String)
  | stringKeys (map : String)
  | stringDrop (map : String)
  | root (name : String) (shape : Shape) (slots : List SlotArg)
  | rootPush (root node : String) (cell : Nat)
  | rootList (root : String)
  | rootDescribe (root : String)
  | rootReplace (root : String) (shape : Shape) (slots : List SlotArg)
  | rootOwner (root : String)
  | rootDrop (root : String)
  | marker (name : String) (slots : List SlotArg) (busy busyOnMark : Bool)
  | markerSet (name : String) (slots : Option (List SlotArg)) (busy busyOnMark : Bool)
  | markerVisits (marker : String)
  | register (name marker : String)
  | registration (registration : String)
  | remove (registration : String)
  | registrationDrop (registration : String)

inductive HoldTarget where
  | whole (access : Access)
  | cell (index : Nat) (access : Access)
deriving DecidableEq, Repr

inductive Command where
  | op (on : String) (o : Op)
  | scope (on : String) (bails raises : Bool) (body : List Command)
  | hold (on : String) (root : String) (target : HoldTarget) (body : List Command)
  | holdEntry (on : String) (map key : String) (body : List Command)
  | times (on : String) (count : Nat) (body : List Command)

def Command.on : Command → String
  | op on _ => on
  | scope on .. => on
  | hold on .. => on
  | holdEntry on .. => on
  | times on .. => on

end MarkSweep

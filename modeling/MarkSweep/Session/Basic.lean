import MarkSweep.Session.Command
import MarkSweep.Session.Reply

/-!
Sessions: a world, and names for what is in it. An action that fails keeps what it did before.
-/

namespace MarkSweep

structure Session where
  world : World := {}
  collectors : Std.TreeMap String CollectorId := ∅
  nodes : Std.TreeMap String Ref := ∅
  keeps : Std.TreeMap String KeepAlive := ∅
  weaks : Std.TreeMap String WeakRef := ∅
  maps : Std.TreeMap String WeakMap := ∅
  stringMaps : Std.TreeMap String StringMap := ∅
  roots : Std.TreeMap String (Rooted × Shape) := ∅
  markers : Std.TreeMap String MarkerId := ∅
  registrations : Std.TreeMap String Registration := ∅
  marks : Std.TreeMap String TrailMark := ∅

abbrev Action := ExceptT Failure (StateM Session)

namespace Session

def start (config : ConfigArg) : Session :=
  let (id, world) := World.addCollector {} (config.resolveForCollector {})
  { world, collectors := (∅ : Std.TreeMap String CollectorId).insert "A" id }

def find {α : Type} (table : Session → Std.TreeMap String α) (name : String) : Action α := do
  match (table (← get))[name]? with
  | some a => pure a
  | none => throw (.unbound name)

def collectorId (name : String) : Action CollectorId := find collectors name

def node (name : String) : Action Ref := find nodes name

def liftFault {α : Type} (e : Except Fault α) : Action α :=
  match e with
  | .ok a => pure a
  | .error f => throw (.fault f)

def liftBreach {α : Type} (e : Except Breach α) : Action α :=
  match e with
  | .ok a => pure a
  | .error b => throw (.breach b)

def liftFailure {α : Type} (e : Except Failure α) : Action α :=
  match e with
  | .ok a => pure a
  | .error f => throw f

def world? {α : Type} (f : World → α) : Action α := do pure (f (← get).world)

def act {α : Type} (f : World → α × World) : Action α :=
  modifyGet fun s =>
    let (a, world) := f s.world
    (a, { s with world })

def actOn (f : World → World) : Action Unit := act fun w => ((), f w)

def attempt (f : World → Except Failure World) : Action Unit := do
  let w ← liftFailure (f (← get).world)
  modify fun s => { s with world := w }

def edit {α : Type} (id : CollectorId) (f : Collector → α × Collector) : Action α :=
  act fun w =>
    let (a, c) := f (w.collector id)
    (a, w.setCollector id c)

def tryEdit {α : Type} (id : CollectorId) (f : Collector → Except Fault α × Collector) :
    Action α := do
  liftFault (← edit id f)

def relock (id : CollectorId) (f : Collector → Except Breach Unit × Collector) : Action Unit := do
  liftBreach (← edit id f)

def slot : SlotArg → Action Slot
  | .empty => pure .empty
  | .scalar value => pure (.scalar value)
  | .node name => do pure (.node (← node name))
  | .bits name => do pure (.scalar (.ofNat (← node name).bits))

def slots : List SlotArg → Action (List Slot)
  | [] => pure []
  | a :: as => do
    let s ← slot a
    let ss ← slots as
    pure (s :: ss)

def object : ObjectArg → Action Object
  | .chunk bytes => pure (.chunk bytes)
  | .vector args => do pure (.vector (← slots args).toArray)

def bindNode (name : Option String) (r : Ref) : Action Unit :=
  match name with
  | some name => modify fun s => { s with nodes := s.nodes.insert name r }
  | none => pure ()

/-- Drops something. A panic on the way ends the step. -/
def discard (f : World → Fallout × World) : Action Unit := do
  match ← act f with
  | .done => pure ()
  | _ => throw .alreadyBorrowed

def dropNamed {α : Type} (table : Session → Std.TreeMap String α)
    (unname : String → Session → Session) (drop : α → World → Fallout × World) (name : String) :
    Action Bool := do
  match (table (← get))[name]? with
  | some a =>
    modify (unname name)
    discard (drop a)
    pure true
  | none => pure false

def dropKeep : String → Action Bool :=
  dropNamed keeps (fun name s => { s with keeps := s.keeps.erase name }) fun k w => w.drop (.keep k)

def bindKeep (name : String) (k : KeepAlive) : Action Unit := do
  let _ ← dropKeep name
  modify fun s => { s with keeps := s.keeps.insert name k }

def dropWeak : String → Action Bool :=
  dropNamed weaks (fun name s => { s with weaks := s.weaks.erase name }) fun r w => w.drop (.weak r)

def bindWeak (name : String) (r : WeakRef) : Action Unit := do
  let _ ← dropWeak name
  modify fun s => { s with weaks := s.weaks.insert name r }

def dropMap : String → Action Bool :=
  dropNamed maps (fun name s => { s with maps := s.maps.erase name }) fun m w => w.drop (.map m)

def bindMap (name : String) (m : WeakMap) : Action Unit := do
  let _ ← dropMap name
  modify fun s => { s with maps := s.maps.insert name m }

def dropStringMap : String → Action Bool :=
  dropNamed stringMaps (fun name s => { s with stringMaps := s.stringMaps.erase name }) StringMap.drop

def bindStringMap (name : String) (m : StringMap) : Action Unit := do
  let _ ← dropStringMap name
  modify fun s => { s with stringMaps := s.stringMaps.insert name m }

def dropRoot : String → Action Bool :=
  dropNamed roots (fun name s => { s with roots := s.roots.erase name }) (Rooted.drop ·.1)

def bindRoot (name : String) (r : Rooted) (shape : Shape) : Action Unit := do
  let _ ← dropRoot name
  modify fun s => { s with roots := s.roots.insert name (r, shape) }

def dropRegistration : String → Action Bool :=
  dropNamed registrations (fun name s => { s with registrations := s.registrations.erase name })
    Registration.drop

def bindRegistration (name : String) (r : Registration) : Action Unit := do
  let _ ← dropRegistration name
  modify fun s => { s with registrations := s.registrations.insert name r }

def bindMarker (name : String) (m : MarkerId) : Action Unit := do
  actOn (·.hold m)
  if let some old := (← get).markers[name]? then discard (·.release old)
  modify fun s => { s with markers := s.markers.insert name m }

def summary (s : Session) (name : String) : Summary :=
  (s.world.collector (s.collectors[name]?.getD 0)).summary

end Session

end MarkSweep

import MarkSweep.Session.Basic

namespace MarkSweep

namespace Session

def nodeList (v : Option Traced) : Option (List Ref) := v.map Traced.nodes

def listRoot (shape : Shape) (v : Traced) : Except Failure Reply :=
  if shape = .cells then do
    let rss ← v.parts.mapM Traced.readCell
    pure (.cells rss)
  else pure (.nodes (some v.nodes))

def modifyProbe (w : World) (id : MarkerId) (f : Probe → Probe) : World :=
  match w.process.marker id with
  | .probe p => w.setMarker id (.probe (f p))
  | _ => w

def visits (w : World) (id : MarkerId) : List Visit :=
  match w.process.marker id with
  | .probe p => p.visits
  | _ => []

def perform (id : CollectorId) : Op → Action Reply
  | .create _ => pure .done
  | .sameCollector other => do
    pure (.truth ((← collectorId other) == id))
  | .describe => do pure (.text (some (← world? (·.collector id)).describe))
  | .allocate name header object => do
    let header ← liftFault header.resolve
    let object ← Session.object object
    let r ← act (·.allocate id header object)
    bindNode name r
    pure (.node (some r))
  | .intern name text => do
    let r ← act (·.intern id text)
    bindNode name r
    pure (.node (some r))
  | .sleep milliseconds => do
    actOn (·.sleep milliseconds)
    pure .done
  | .rename name node => do
    let r ← Session.node node
    bindNode (some name) r
    pure (.node (some r))
  | .lock => do
    relock id Collector.lock
    pure .done
  | .unlock => do
    relock id Collector.unlock
    pure .done
  | .trigger => do
    liftBreach (← act (·.trigger id))
    pure .done
  | .tryTrigger => do
    let m ← liftFault (← act (·.tryTrigger id))
    pure (.metrics (some m))
  | .setTimeout milliseconds => do
    actOn fun w => w.modifyCollector id (·.setTimeout milliseconds w.process.clock)
    pure .done
  | .timeout => do pure (.milliseconds (← world? (·.collector id)).config.timeout)
  | .config => do pure (.config (← world? (·.collector id)).config)
  | .setDefaults config => do
    actOn fun w => w.setDefaults (config.resolve w.process.defaults)
    pure .done
  | .defaults => do pure (.config (← world? (·.process)).defaults)
  | .latest => do pure (.metrics (← world? (·.collector id)).history.latest?)
  | .history => do pure (.history (← world? (·.collector id)).history.entries)
  | .totals => do pure (.totals (← world? (·.process)).totals)
  | .events => do pure (.events (← act World.takeLog))
  | .inspect node => do
    let r ← Session.node node
    pure (.inspection ((← world? (·.collector id)).inspect r))
  | .live slots => do
    let ss ← Session.slots slots
    let c ← world? (·.collector id)
    pure (.truths (ss.map fun s => s.node?.any c.isLive))
  | .describeHeader node => do
    let r ← Session.node node
    pure (.text (((← world? (·.collector id)).header? r).map Header.describe))
  | .slot node index => do
    let r ← Session.node node
    pure (.slot ((← world? (·.collector id)).slot? ⟨r, index⟩))
  | .text node => do
    let r ← Session.node node
    pure (.text ((← world? (·.collector id)).string? r))
  | .setSlot node index value => do
    let r ← Session.node node
    let value ← Session.slot value
    pure (.slot (some (← tryEdit id (·.setSlot ⟨r, index⟩ value))))
  | .setSlotTrailed node index value => do
    let r ← Session.node node
    let value ← Session.slot value
    pure (.slot (some (← tryEdit id (·.setSlotTrailed ⟨r, index⟩ value))))
  | .write node start bytes => do
    let r ← Session.node node
    pure (.count (← tryEdit id (·.writeChunk r start bytes)))
  | .setFlag node flag value => do
    let r ← Session.node node
    tryEdit id (·.setFlag r flag value)
    pure .done
  | .setSecondary node sec => do
    let r ← Session.node node
    tryEdit id (·.setSecondary r sec)
    pure .done
  | .reference node => do pure (.reference (← Session.node node))
  | .compare a b => do pure (.comparison (← Session.node a) (← Session.node b))
  | .findInterned text => do pure (.node ((← world? (·.collector id)).findInterned text))
  | .checkpoint name => do
    let mark ← edit id (·.checkpoint)
    if let some name := name then
      modify fun s => { s with marks := s.marks.insert name mark }
    pure (.count mark.depth)
  | .record node index prior => do
    let r ← Session.node node
    let prior ← Session.slot prior
    edit id fun c => ((), c.record ⟨r, index⟩ prior)
    pure .done
  | .rollback => do pure (.count (← tryEdit id (·.rollback)))
  | .rollbackTo mark => do
    let m ← find Session.marks mark
    pure (.count (← tryEdit id (·.rollbackTo m)))
  | .commit => do
    tryEdit id (·.commit)
    pure .done
  | .keep name node => do
    let r ← Session.node node
    let k ← act (KeepAlive.create · id r)
    bindKeep name k
    pure (.node (some r))
  | .keepGet keep => do
    let k ← find keeps keep
    pure (.keepAlive k (k.collector == id))
  | .keepSet keep node => do
    let k ← find keeps keep
    let r ← Session.node node
    let k ← act (k.set · r)
    modify fun s => { s with keeps := s.keeps.insert keep k }
    pure (.node (some r))
  | .keepClone name keep => do
    let k ← find keeps keep
    let k ← act k.clone
    bindKeep name k
    pure (.node (some k.node))
  | .keepCloneFrom keep source => do
    let k ← find keeps keep
    let source ← find keeps source
    let k ← act (k.cloneFrom · source)
    modify fun s => { s with keeps := s.keeps.insert keep k }
    pure (.moved k (k.collector == id))
  | .keepDrop keep => do pure (.truth (← dropKeep keep))
  | .weak name node => do
    let r ← Session.node node
    let weak ← act (WeakRef.create · id r)
    bindWeak name weak
    pure (.node (← world? weak.get?))
  | .weakClone name weak => do
    let old ← find weaks weak
    let weak ← act old.clone
    bindWeak name weak
    pure (.node (← world? weak.get?))
  | .weakGet weak => do
    let weak ← find weaks weak
    pure (.weak (← world? weak.get?) (weak.collector == id) (← world? weak.describe))
  | .weakDrop weak => do pure (.truth (← dropWeak weak))
  | .map name => do
    let m ← act (WeakMap.create · id)
    bindMap name m
    pure .done
  | .mapInsert map key value => do
    let m ← find maps map
    let key ← Session.node key
    let value ← Session.node value
    pure (.node (← act (m.insert · key value)))
  | .mapFind map key => do
    let m ← find maps map
    let key ← Session.node key
    pure (.found (← world? (m.find? · key)))
  | .mapRemove map key => do
    let m ← find maps map
    let key ← Session.node key
    pure (.node (← act (m.erase · key)))
  | .mapClear map => do
    let m ← find maps map
    actOn m.clear
    pure .done
  | .mapEntries map => do
    let m ← find maps map
    pure (.entries (← world? m.contents).toList (← world? m.describe))
  | .mapDrop map => do pure (.truth (← dropMap map))
  | .stringMap name => do
    let m ← act (StringMap.create · id)
    bindStringMap name m
    pure .done
  | .stringInsert map key value => do
    let m ← find stringMaps map
    let value ← Session.slots value
    let value := Traced.ofNodes (value.filterMap Slot.node?)
    let old ← liftFailure (← act (m.insert · key value))
    pure (.nodes (nodeList old))
  | .stringGet map key => do
    let m ← find stringMaps map
    let value ← world? (m.find? · key)
    pure (.lookup (nodeList value) value.isSome)
  | .stringRemove map key => do
    let m ← find stringMaps map
    let old ← liftFailure (← act (m.erase · key))
    pure (.nodes (nodeList old))
  | .stringKeys map => do
    let m ← find stringMaps map
    pure (.keys (← world? m.keys) (← world? m.size) (← world? m.describe))
  | .stringDrop map => do pure (.truth (← dropStringMap map))
  | .root name shape slots => do
    let held ← Session.slots slots
    let r ← act (Rooted.ofContent · id (shape.build held))
    bindRoot name r shape
    pure .done
  | .rootPush root node cell => do
    let (r, shape) ← find Session.roots root
    let node ← Session.node node
    attempt fun w => if shape = .cells then r.pushToCell w cell node else r.push w node
    pure .done
  | .rootList root => do
    let (r, shape) ← find Session.roots root
    let v ← liftFailure (← world? r.read)
    liftFailure (listRoot shape v)
  | .rootDescribe root => do
    let (r, _) ← find Session.roots root
    pure (.text (some (← world? r.describe)))
  | .rootReplace root shape slots => do
    let (r, made) ← find Session.roots root
    let held ← Session.slots slots
    let (old, w) ← liftFailure (← world? (r.replace · (shape.build held)))
    modify fun s => { s with world := w }
    pure (if made = .nodes then .nodes (some old.nodes) else .done)
  | .rootOwner root => do
    let (r, _) ← find Session.roots root
    pure (.truth (r.owner == id))
  | .rootDrop root => do pure (.truth (← dropRoot root))
  | .marker name slots busy busyOnMark => do
    let slots ← Session.slots slots
    let marker ← act (·.addMarker (.probe { slots, busy, busyOnMark }))
    bindMarker name marker
    pure .done
  | .markerSet name slots busy busyOnMark => do
    let marker ← find Session.markers name
    let slots ← match slots with
      | some slots => some <$> Session.slots slots
      | none => pure none
    actOn (modifyProbe · marker fun p =>
      { p with slots := slots.getD p.slots, busy, busyOnMark })
    pure .done
  | .markerVisits name => do
    let marker ← find Session.markers name
    let vs ← world? (Session.visits · marker)
    actOn (modifyProbe · marker fun p => { p with visits := [] })
    pure (.visits vs)
  | .register name marker => do
    let marker ← find Session.markers marker
    let r ← act (Registration.create · id marker)
    bindRegistration name r
    pure .done
  | .registration name => do
    let r ← find registrations name
    pure (.registration (r.collector == id) r.describe)
  | .remove name => do
    let _ ← find registrations name
    let _ ← dropRegistration name
    pure .done
  | .registrationDrop name => do pure (.truth (← dropRegistration name))

def create (name : String) (config : ConfigArg) : Action Reply := do
  let w ← world? id
  let collector ← act (·.addCollector (config.resolveForCollector w.process.defaults))
  modify fun s => { s with collectors := s.collectors.insert name collector }
  pure .done

def runOp (on : String) : Op → Action Reply
  | .create config => create on config
  | o => do perform (← collectorId on) o

def seize (root : String) (target : HoldTarget) : Action Rooted := do
  let (r, _) ← find roots root
  attempt fun w =>
    match target with
    | .whole access => r.acquire w access
    | .cell index access => r.acquireCell w index access
  pure r

def letGo (r : Rooted) (target : HoldTarget) (w : World) : World :=
  match target with
  | .whole access => r.release w access
  | .cell index access => r.releaseCell w index access

def seizeEntry (map key : String) : Action (StringMap × Option Traced) := do
  let m ← find stringMaps map
  let value ← world? (m.find? · key)
  if value.isSome then attempt fun w => m.rooted.acquire w .shared
  pure (m, value)

def rounds {α : Type} (body : Session → List α × Session) : Nat → Session → List α × Session
  | 0, s => ([], s)
  | 1, s => body s
  | n + 2, s => rounds body (n + 1) (body s).2

def scopeEnd (released : Except Failure Unit) (bailed raises : Bool) : ScopeEnd :=
  match released with
  | .error (.breach b) => .failed b
  | _ =>
    if bailed then .bailed
    else if raises then .failed (.raised "scope panicked")
    else .finished

end Session

mutual

def Command.run : Command → Session → Except Failure Reply × Session
  | .op on o, s => (Session.runOp on o).run.run s
  | .scope on bails raises body, s =>
    match ((do
      let id ← Session.collectorId on
      Session.relock id Collector.lock
      pure id : Action CollectorId).run.run s) with
    | (.error e, s) => (.error e, s)
    | (.ok id, s) =>
      let (results, s) := Command.runAll bails body s
      let (released, s) := (Session.relock id Collector.unlock).run.run s
      (.ok (.scope results (Session.scopeEnd released (bails && !body.isEmpty) raises)), s)
  | .hold _ root target body, s =>
    match (Session.seize root target).run.run s with
    | (.error e, s) => (.error e, s)
    | (.ok r, s) =>
      let (results, s) := Command.runAll false body s
      (.ok (.steps results), { s with world := Session.letGo r target s.world })
  | .holdEntry _ map key body, s =>
    match (Session.seizeEntry map key).run.run s with
    | (.error e, s) => (.error e, s)
    | (.ok (m, value), s) =>
      let (results, s) := Command.runAll false body s
      let world := if value.isSome then m.rooted.release s.world .shared else s.world
      (.ok (.heldEntry (Session.nodeList value) results), { s with world })
  | .times _ count body, s =>
    let (results, s) := Session.rounds (Command.runAll false body) count s
    (.ok (.rounds (results.map (·.1))), s)

def Command.runAll (single : Bool) :
    List Command → Session → List (Except Failure Reply × Summary) × Session
  | [], s => ([], s)
  | c :: cs, s =>
    let (answer, s) := c.run s
    let result := (answer, s.summary c.on)
    if single then ([result], s)
    else
      let (results, s) := Command.runAll single cs s
      (result :: results, s)

end

def Session.script (config : ConfigArg) (commands : List Command) :
    List (Except Failure Reply × Summary) :=
  (Command.runAll false commands (Session.start config)).1

end MarkSweep

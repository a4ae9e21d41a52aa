import MarkSweep.World

namespace MarkSweep

namespace WeakRef

def register (w : World) (collector : CollectorId) (entry : WeakEntry) : WeakRef × World :=
  let (key, weakRefs) := (w.collector collector).weakRefs.insert entry
  (⟨collector, key⟩, w.modifyCollector collector fun c => { c with weakRefs })

def create (w : World) (collector : CollectorId) (node : Ref) : WeakRef × World :=
  register w collector ⟨node, (w.collector collector).isLive node⟩

def entry? (r : WeakRef) (w : World) : Option WeakEntry :=
  (w.collector r.collector).weakRefs.get? r.key

def get? (r : WeakRef) (w : World) : Option Ref :=
  ((r.entry? w).filter (·.valid)).map (·.node)

def clone (r : WeakRef) (w : World) : WeakRef × World :=
  register w r.collector ((r.entry? w).getD ⟨⟨0, 0⟩, false⟩)

def drop (r : WeakRef) (w : World) : World :=
  w.modifyCollector r.collector fun c => { c with weakRefs := c.weakRefs.erase r.key }

def describe (r : WeakRef) (w : World) : String :=
  match r.get? w with
  | some node => "WeakRef(Some(" ++ node.describe ++ "))"
  | none => "WeakRef(None)"

end WeakRef

namespace WeakMap

def create (w : World) (collector : CollectorId) : WeakMap × World :=
  let (key, weakMaps) := (w.collector collector).weakMaps.insert ∅
  (⟨collector, key⟩, w.modifyCollector collector fun c => { c with weakMaps })

def contents (m : WeakMap) (w : World) : NodeMap :=
  ((w.collector m.collector).weakMaps.get? m.key).getD ∅

def modify (m : WeakMap) (w : World) (f : NodeMap → NodeMap) : World :=
  w.modifyCollector m.collector fun c => { c with weakMaps := c.weakMaps.modify m.key f }

def find? (m : WeakMap) (w : World) (node : Ref) : Option Ref := (m.contents w)[node]?

def insert (m : WeakMap) (w : World) (node value : Ref) : Option Ref × World :=
  (m.find? w node, m.modify w (·.insert node value))

def erase (m : WeakMap) (w : World) (node : Ref) : Option Ref × World :=
  (m.find? w node, m.modify w (·.erase node))

def clear (m : WeakMap) (w : World) : World := m.modify w fun _ => ∅

def drop (m : WeakMap) (w : World) : World :=
  w.modifyCollector m.collector fun c => { c with weakMaps := c.weakMaps.erase m.key }

def describe (m : WeakMap) (w : World) : String :=
  s!"WeakNodeMap \x7b len: {(m.contents w).size}, .. \x7d"

end WeakMap

end MarkSweep

import MarkSweep.World

namespace MarkSweep

namespace KeepAlive

def create (w : World) (collector : CollectorId) (node : Ref) : KeepAlive × World :=
  let (key, keepAlive) := (w.collector collector).keepAlive.insert node
  (⟨collector, key, node⟩, w.modifyCollector collector fun c => { c with keepAlive })

def set (k : KeepAlive) (w : World) (node : Ref) : KeepAlive × World :=
  ({ k with node },
    w.modifyCollector k.collector fun c => { c with keepAlive := c.keepAlive.set k.key node })

def clone (k : KeepAlive) (w : World) : KeepAlive × World := create w k.collector k.node

def drop (k : KeepAlive) (w : World) : World :=
  w.modifyCollector k.collector fun c => { c with keepAlive := c.keepAlive.erase k.key }

def cloneFrom (k : KeepAlive) (w : World) (source : KeepAlive) : KeepAlive × World :=
  if k.collector = source.collector then k.set w source.node
  else
    let (fresh, w) := source.clone w
    (fresh, k.drop w)

def describe (k : KeepAlive) : String := "KeepAlive(" ++ k.node.describe ++ ")"

end KeepAlive

end MarkSweep

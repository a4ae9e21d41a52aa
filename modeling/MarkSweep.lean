import MarkSweep.Collection.PhaseTimer
import MarkSweep.Proofs.Collector.Rearrangement
import MarkSweep.Proofs.Collector.Refusal
import MarkSweep.Proofs.Derive.Generics
import MarkSweep.Proofs.Derive.Path
import MarkSweep.Proofs.Heap.Generation
import MarkSweep.Proofs.Heap.Restore
import MarkSweep.Proofs.Heap.Routing
import MarkSweep.Proofs.Heap.Store
import MarkSweep.Proofs.Marking.Worklist
import MarkSweep.Proofs.Session.Scope
import MarkSweep.Proofs.Session.Writes
import MarkSweep.Proofs.Trail.Mark
import MarkSweep.Proofs.Trail.Segment
import MarkSweep.Proofs.World.Allocation
import MarkSweep.Proofs.World.Arena
import MarkSweep.Proofs.World.Catalogue
import MarkSweep.Proofs.World.Foreign
import MarkSweep.Proofs.World.Moves
import MarkSweep.Proofs.World.Insertion
import MarkSweep.Proofs.World.Metrics
import MarkSweep.Proofs.World.Observation
import MarkSweep.Proofs.World.Pacing
import MarkSweep.Proofs.World.Reading
import MarkSweep.Proofs.World.Speculation
import MarkSweep.Proofs.World.Threshold
import MarkSweep.Proofs.World.Transcript
import MarkSweep.Proofs.World.WeakMaps
import MarkSweep.Session.Run

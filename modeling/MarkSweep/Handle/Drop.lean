import MarkSweep.Handle.KeepAlive
import MarkSweep.Handle.Rooted
import MarkSweep.Handle.Weak

/-!
Dropping handles. When the last reference to a marker goes with a registration, the marker goes with
it, and the handles that it owns are dropped while the root set that it left is still borrowed. A
registration of that same collector cannot be taken out then.
-/

namespace MarkSweep

/-- How it ends when something is dropped. -/
inductive Fallout where
  | done
  | panicked (r : Registration)
  | aborted
deriving DecidableEq, Repr

def Fallout.stranded : Fallout → List Registration
  | panicked r => [r]
  | _ => []

def Handle.erase (w : World) : Handle → World
  | keep k => k.drop w
  | weak r => r.drop w
  | map m => m.drop w
  | root r => r.erase w

theorem Handle.owned_erase (h : Handle) (w : World) : (h.erase w).owned = w.owned := by
  cases h <;> rfl

/-- A handle that is to go, and the collectors whose root sets are borrowed until then. -/
structure Pending where
  handle : Handle
  busy : List CollectorId := []
deriving DecidableEq, Repr

namespace World

def refersTo (w : World) (m : MarkerId) : Bool :=
  w.held.contains m || w.collectors.any fun c => c.roots.values.contains m

def abandon (w : World) (m : MarkerId) : List Handle × World :=
  if w.refersTo m then ([], w)
  else
    let (gone, owned) := w.owned.partition (·.1 = m)
    (gone.map Prod.snd, { w with owned })

def unroot (w : World) (r : Registration) : List Handle × World :=
  match (w.collector r.collector).roots.get? r.key with
  | some m => (r.erase w).abandon m
  | none => ([], r.erase w)

theorem perm_abandon (w : World) (m : MarkerId) :
    ((w.abandon m).1 ++ (w.abandon m).2.owned.map Prod.snd).Perm (w.owned.map Prod.snd) := by
  rw [abandon]
  split
  · exact .refl _
  · simp only [List.partition_eq_filter_filter, ← List.map_append]
    exact (List.filter_append_perm _ w.owned).map Prod.snd

theorem perm_unroot (w : World) (r : Registration) :
    ((w.unroot r).1 ++ (w.unroot r).2.owned.map Prod.snd).Perm (w.owned.map Prod.snd) := by
  rw [unroot]
  split
  · exact perm_abandon (r.erase w) _
  · exact .refl _

/-- Drops what is pending, and before the rest what goes with it. -/
def cascade (w : World) (fallout : Fallout) : List Pending → Fallout × World
  | [] => (fallout, w)
  | ⟨.root r, busy⟩ :: ps =>
    if r.collector ∈ busy then
      if fallout = .done then cascade w (.panicked r) ps else (.aborted, w)
    else
      cascade (w.unroot r).2 fallout
        ((w.unroot r).1.map (⟨·, r.collector :: busy⟩) ++ ps)
  | ⟨h, _⟩ :: ps => cascade (h.erase w) fallout ps
termination_by ps => w.owned.length + ps.length
decreasing_by
  · simp
  · have same := (w.perm_unroot r).length_eq
    simp only [List.length_append, List.length_map, List.length_cons] at same ⊢
    omega
  · rw [Handle.owned_erase, List.length_cons]
    omega

def drop (w : World) (h : Handle) : Fallout × World := w.cascade .done [⟨h, []⟩]

def release (w : World) (m : MarkerId) : Fallout × World :=
  let (hs, w) := { w with held := w.held.erase m }.abandon m
  w.cascade .done (hs.map (⟨·, []⟩))

def hold (w : World) (m : MarkerId) : World := { w with held := m :: w.held }

end World

def Registration.drop (r : Registration) (w : World) : Fallout × World := w.drop (.root r)

/-- The reference to the value goes first, which leaves the one that is registered. -/
def Rooted.drop (r : Rooted) (w : World) : Fallout × World := r.registration.drop w

end MarkSweep

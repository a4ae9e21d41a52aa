import MarkSweep.Derive.Implementation
import MarkSweep.Derive.Setting

/-!
The implementation that is derived for an item. It traces each field that is not skipped once and
in order, and asks of each type parameter that it can be traced.
-/

namespace MarkSweep.Derive

def Bound.demandsTracing (b : Bound) : Bool := b.kind == .trait "Trace"

def Parameter.traceable (root : List Word) : Parameter → Parameter
  | type attributes name bounds default =>
    if bounds.items.any Bound.demandsTracing then type attributes name bounds default
    else type attributes name (bounds.push ⟨root ++ Word.plain ["::", "Trace"], .trait "Trace"⟩) default
  | p => p

theorem Parameter.name_traceable (root : List Word) (p : Parameter) :
    (p.traceable root).name = p.name := by
  cases p with
  | type attributes name bounds default =>
    rw [traceable]
    split <;> rfl
  | lifetime | const => rfl

theorem Parameter.isLifetime_traceable (root : List Word) (p : Parameter) :
    (p.traceable root).isLifetime = p.isLifetime := by
  cases p with
  | type attributes name bounds default =>
    rw [traceable]
    split <;> rfl
  | lifetime | const => rfl

def Generics.traceable (root : List Word) (g : Generics) : Generics :=
  { g with parameters.items := g.parameters.items.map (Parameter.traceable root) }

def tracedFrom (place : Nat) : List Field → Except Complaint (List (Nat × Field))
  | [] => .ok []
  | f :: fs => do
    let skipped ← f.isSkipped
    let rest ← tracedFrom (place + 1) fs
    return if skipped then rest else (place, f) :: rest

def Fields.traced (fields : Fields) : Except Complaint (List (Nat × Field)) :=
  tracedFrom 0 fields.list

def Field.member (f : Field) (place : Nat) : String := f.name.getD (toString place)

def Variant.arm (v : Variant) : Except Complaint Arm := do
  return ⟨v.name, v.fields, (← v.fields.traced).map (·.1)⟩

def Content.body : Content → Except Complaint Body
  | struct fields => do return .members ((← fields.traced).map fun (i, f) => f.member i)
  | enum variants => do return .arms (← variants.mapM Variant.arm)
  | union _ => .error .union

/-- The attributes of the item come before those of its fields. -/
def Item.expand (item : Item) : Except Complaint Implementation := do
  let root ← item.root
  let body ← item.content.body
  return ⟨root, item.name, item.generics.traceable root, body⟩

end MarkSweep.Derive

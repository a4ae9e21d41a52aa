/-!
Registries: tables whose keys are never issued twice. A row that was given up is used again under a
higher version, and the row given up last is used first.
-/

namespace MarkSweep

/-- Names one entry of a registry. Rows are counted from zero, versions go up in steps of two. -/
structure Key where
  row : Nat
  version : Nat
deriving DecidableEq, Repr

def Key.display (k : Key) : String := s!"{k.row + 1}v{k.version}"

structure Row (α : Type) where
  version : Nat
  value : Option α

structure Registry (α : Type) where
  rows : Array (Row α) := #[]
  vacant : List Nat := []

namespace Registry

variable {α : Type}

def get? (g : Registry α) (k : Key) : Option α :=
  match g.rows[k.row]? with
  | some row => if row.version = k.version then row.value else none
  | none => none

def insert (g : Registry α) (value : α) : Key × Registry α :=
  match g.vacant with
  | row :: vacant =>
    let version := (g.rows[row]?.map (·.version)).getD 0 + 2
    (⟨row, version⟩, { rows := g.rows.modify row fun _ => ⟨version, some value⟩, vacant })
  | [] => (⟨g.rows.size, 1⟩, { g with rows := g.rows.push ⟨1, some value⟩ })

def set (g : Registry α) (k : Key) (value : α) : Registry α :=
  if (g.get? k).isSome then
    { g with rows := g.rows.modify k.row fun row => { row with value := some value } }
  else g

def modify (g : Registry α) (k : Key) (f : α → α) : Registry α :=
  match g.get? k with
  | some value => g.set k (f value)
  | none => g

def erase (g : Registry α) (k : Key) : Registry α :=
  if (g.get? k).isSome then
    { rows := g.rows.modify k.row fun row => { row with value := none }
      vacant := k.row :: g.vacant }
  else g

def mapValues (g : Registry α) (f : α → α) : Registry α :=
  { g with rows := g.rows.map fun row => { row with value := row.value.map f } }

def values (g : Registry α) : List α := g.rows.toList.filterMap (·.value)

def size (g : Registry α) : Nat := g.values.length

theorem get?_set (g : Registry α) (k l : Key) (value : α) :
    (g.set k value).get? l = if k = l then (g.get? l).map fun _ => value else g.get? l := by
  rw [set]
  split
  case isFalse h =>
    split
    case isTrue e => subst e; cases hk : g.get? k <;> simp_all
    case isFalse => rfl
  case isTrue h =>
    simp only [get?, Array.getElem?_modify] at h ⊢
    by_cases hr : k.row = l.row
    case neg =>
      have : k ≠ l := fun e => hr (congrArg Key.row e)
      simp [hr, this]
    case pos =>
      rw [hr] at h
      cases hrow : g.rows[l.row]? with
      | none => simp
      | some row =>
        rw [hrow] at h
        by_cases hv : k.version = l.version
        case pos =>
          have : k = l := by cases k; cases l; simp_all
          subst this
          by_cases hk : row.version = k.version
          case pos =>
            simp only [hk, if_true] at h
            simp only [if_true, Option.map_some, if_pos hk]
            obtain ⟨old, ho⟩ := Option.isSome_iff_exists.mp h
            rw [ho]
            rfl
          case neg => simp [hk]
        case neg =>
          have hkl : k ≠ l := fun e => hv (congrArg Key.version e)
          by_cases hk : row.version = k.version
          case pos =>
            have hl : row.version ≠ l.version := fun e => hv (hk.symm.trans e)
            simp only [if_pos hr, Option.map_some, if_neg hl, if_neg hkl]
          case neg => simp [hk] at h

end Registry

end MarkSweep

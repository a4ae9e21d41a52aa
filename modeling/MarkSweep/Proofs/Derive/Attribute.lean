import MarkSweep.Proofs.Derive.Setting

namespace MarkSweep.Derive

theorem bind_eq_ok_iff {ε α β : Type} {x : Except ε α} {f : α → Except ε β} {b : β} :
    (x >>= f) = .ok b ↔ ∃ a, x = .ok a ∧ f a = .ok b := by
  cases x <;> simp [bind, Except.bind]

theorem pure_eq_ok_iff {ε α : Type} {a b : α} : (pure a : Except ε α) = .ok b ↔ b = a := by
  simp [pure, Except.pure, eq_comm]

theorem mapM_eq_ok_iff_forall₂ {ε α β : Type} {f : α → Except ε β} {xs : List α} {ys : List β} :
    xs.mapM f = .ok ys ↔ List.Forall₂ (fun x y => f x = .ok y) xs ys := by
  induction xs generalizing ys with
  | nil => cases ys <;> simp [pure, Except.pure]
  | cons x xs ih =>
    rw [List.mapM_cons, List.forall₂_cons_left_iff]
    simp only [← ih]
    cases f x with
    | error e => simp [bind, Except.bind]
    | ok y => cases xs.mapM f <;> simp [bind, Except.bind, pure, Except.pure, eq_comm]

theorem exists_forall₂_iff {α β : Type} {R : α → β → Prop} {xs : List α} :
    (∃ ys, List.Forall₂ R xs ys) ↔ ∀ x ∈ xs, ∃ y, R x y := by
  induction xs with
  | nil => simp
  | cons x xs ih => simp [List.forall₂_cons_left_iff, ← ih]

namespace Attribute

variable {α : Type} {setting : List Word → Reader α} {Entry : List Tree → α → List Tree → Prop}
  {attributes : List Attribute} {as : List α}

def ListAll (Entry : List Tree → α → List Tree → Prop) (attributes : List Attribute)
    (as : List α) : Prop :=
  ∃ ass, List.Forall₂ (Lists Entry) (attributes.filter isOwn) ass ∧ as = ass.flatten

theorem allSettings_eq_ok_iff (settles : Reader.Settles setting Entry) :
    allSettings setting attributes = .ok as ↔ ListAll Entry attributes as := by
  have lists : (fun a (as : List α) => a.settings setting = .ok as) = Lists Entry := by
    funext a as
    exact propext settles.settings_eq_ok_iff
  rw [ListAll, allSettings, ← lists]
  simp only [← mapM_eq_ok_iff_forall₂]
  cases (attributes.filter isOwn).mapM (settings setting) <;> simp [eq_comm]

theorem exists_listAll_iff :
    (∃ as, ListAll Entry attributes as) ↔
      ∀ a ∈ attributes, a.isOwn → ∃ as, a.Lists Entry as := by
  simp only [ListAll, exists_comm (α := List α), existsAndEq, and_true, exists_forall₂_iff,
    List.mem_filter, and_imp]

end Attribute

def Tree.isSkip : Tree → Bool
  | .leaf (.name text) => text == "skip"
  | _ => false

def Attribute.isSkip (a : Attribute) : Bool :=
  a.isOwn && match a.argument with
    | .list _ ts => ts.any Tree.isSkip
    | _ => false

def Field.hasSkip (f : Field) : Bool := f.attributes.any Attribute.isSkip

theorem Entries.any_isSkip_eq {ts : List Tree} {us : List Unit}
    (entries : Entries SkipEntry ts us) : ts.any Tree.isSkip = !us.isEmpty := by
  cases entries with
  | none => rfl
  | last skip | more skip _ =>
    cases skip
    rfl

theorem Attribute.ListAll.any_isSkip_eq {attributes : List Attribute} {us : List Unit}
    (list : ListAll SkipEntry attributes us) : attributes.any isSkip = !us.isEmpty := by
  obtain ⟨uss, lists, rfl⟩ := list
  have reduced : attributes.any isSkip = (attributes.filter isOwn).any isSkip := by
    rw [List.any_filter]
    congr 1
    funext a
    cases own : a.isOwn <;> simp [isSkip, own]
  have each : ∀ a ∈ attributes.filter isOwn, a.isOwn := fun a ha => (List.mem_filter.mp ha).2
  rw [reduced]
  generalize attributes.filter isOwn = library at lists each
  induction lists with
  | nil => rfl
  | @cons _ us _ _ first _ ih =>
    obtain ⟨d, ts, argument, entries⟩ := first
    rw [List.any_cons, ih fun a ha => each a (List.mem_cons_of_mem _ ha)]
    cases us <;> simp [isSkip, each _ List.mem_cons_self, argument, entries.any_isSkip_eq]

theorem Field.isSkipped_eq_ok_iff {f : Field} {skipped : Bool} :
    f.isSkipped = .ok skipped ↔
      (∀ a ∈ f.attributes, a.isOwn → ∃ us, a.Lists SkipEntry us) ∧ skipped = f.hasSkip := by
  simp only [isSkipped, bind_eq_ok_iff, pure_eq_ok_iff,
    Attribute.allSettings_eq_ok_iff Reader.settles_skip, ← Attribute.exists_listAll_iff, hasSkip]
  constructor
  · rintro ⟨us, list, rfl⟩
    exact ⟨⟨us, list⟩, list.any_isSkip_eq.symm⟩
  · rintro ⟨⟨us, list⟩, rfl⟩
    exact ⟨us, list, list.any_isSkip_eq⟩

theorem Item.root_eq_ok_iff {item : Item} {root : List Word} :
    item.root = .ok root ↔ ∃ paths, Attribute.ListAll RootEntry item.attributes paths ∧
      root = paths.getLast?.getD (Word.plain ["::", "zinc_gc"]) := by
  simp only [Item.root, bind_eq_ok_iff, pure_eq_ok_iff,
    Attribute.allSettings_eq_ok_iff Reader.settles_root]

end MarkSweep.Derive

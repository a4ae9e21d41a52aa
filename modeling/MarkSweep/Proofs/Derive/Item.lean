import MarkSweep.Derive.Reader.Item
import MarkSweep.Proofs.Derive.Reader

namespace MarkSweep.Derive

inductive Fields.IsFormed : Fields → Prop
  | named {fields : List Field} : (∀ f ∈ fields, f.name.isSome) → IsFormed (.named fields)
  | tuple {fields : List Field} : (∀ f ∈ fields, f.name = none) → IsFormed (.tuple fields)
  | unit : IsFormed .unit

def Content.IsFormed : Content → Prop
  | struct fields => fields.IsFormed
  | enum variants => ∀ v ∈ variants, v.fields.IsFormed
  | union fields => ∀ f ∈ fields, f.name.isSome

namespace Reader

variable {α β : Type} {P : α → Prop} {Q : β → Prop}

def Answers (r : Reader α) (P : α → Prop) : Prop := ∀ c a d, r.run c = .ok (a, d) → P a

theorem answers_pure {a : α} (h : P a) : Answers (pure a) P := by
  intro c b d read
  obtain ⟨rfl, rfl⟩ := Prod.mk.inj (Except.ok.inj read)
  exact h

theorem Answers.bind {r : Reader α} {f : α → Reader β} (first : Answers r P)
    (next : ∀ a, P a → Answers (f a) Q) : Answers (r >>= f) Q := by
  intro c b d read
  obtain ⟨a, e, read, rest⟩ := run_bind_eq_ok.mp read
  exact next a (first c a e read) e b d rest

theorem answers_bind {r : Reader α} {f : α → Reader β} (next : ∀ a, Answers (f a) Q) :
    Answers (r >>= f) Q :=
  Answers.bind (P := fun _ => True) (fun _ _ _ _ => trivial) fun a _ => next a

theorem Answers.map {r : Reader α} {f : α → β} (h : Answers r fun a => Q (f a)) :
    Answers (f <$> r) Q :=
  Answers.bind h fun _ ha => answers_pure ha

theorem Answers.mono {r : Reader α} {R : α → Prop} (h : Answers r P) (weaker : ∀ a, P a → R a) :
    Answers r R :=
  fun c a d read => weaker a (h c a d read)

theorem Answers.ite {p : Prop} [Decidable p] {r s : Reader α} (yes : Answers r P)
    (no : Answers s P) : Answers (if p then r else s) P := by
  split <;> assumption

theorem answers_itemsAtMost {stop : List Tree → Bool} {separator : Reader Bool} {item : Reader α}
    (each : Answers item P) (n : Nat) :
    Answers (itemsAtMost stop separator item n) fun s => ∀ a ∈ s.items, P a := by
  induction n with
  | zero => exact fun _ _ _ read => nomatch read
  | succ n ih =>
    rw [itemsAtMost]
    refine answers_bind fun _ => .ite (answers_pure (by simp)) ?_
    refine each.bind fun a ha => answers_bind fun more => ?_
    refine .ite (ih.bind fun rest hrest => answers_pure ?_) (answers_pure ?_)
    · exact List.forall_mem_cons.mpr ⟨ha, hrest⟩
    · exact List.forall_mem_singleton.mpr ha

theorem answers_inside {d : Delimiter} {held : List Tree} {r : Reader α} (h : Answers r P) :
    Answers (inside d held r) P := by
  intro c a e read
  simp only [run, inside] at read
  cases inner : r { c with trees := held, words := d.opening :: c.words } with
  | error e => simp [inner, Except.map] at read
  | ok x =>
    rw [inner] at read
    obtain ⟨rfl, -⟩ := Prod.mk.inj (Except.ok.inj read)
    exact h _ x.answer x.cursor (by rw [run, inner]; rfl)

theorem answers_group {d : Delimiter} {r : Reader α} (h : Answers r P) :
    Answers (group d r) P := by
  rw [group]
  refine answers_bind fun ts => ?_
  match ts with
  | [] | .leaf _ :: _ => exact fun _ _ _ read => nomatch read
  | .group e held :: _ =>
    simp only
    refine .ite (answers_bind fun _ => answers_inside h) (answers_inside h)

theorem answers_listed {item : Reader α} (each : Answers item P) :
    Answers (listed item) fun s => ∀ a ∈ s.items, P a :=
  answers_bind fun _ => answers_itemsAtMost each _

variable (within : Within)

theorem answers_namedField : Answers (namedField within) fun f => f.name.isSome := by
  rw [namedField]
  refine answers_bind fun _ => answers_bind fun _ => answers_bind fun _ => answers_bind fun _ => ?_
  exact answers_bind fun _ => answers_bind fun _ => answers_pure rfl

theorem answers_tupleField : Answers (tupleField within) fun f => f.name = none := by
  rw [tupleField]
  exact answers_bind fun _ => answers_bind fun _ => answers_bind fun _ => answers_pure rfl

theorem answers_namedFields :
    Answers (namedFields within) fun fields => ∀ f ∈ fields, f.name.isSome :=
  (answers_group (answers_listed (answers_namedField within))).bind fun _ h => answers_pure h

theorem answers_tupleFields :
    Answers (tupleFields within) fun fields => ∀ f ∈ fields, f.name = none :=
  (answers_group (answers_listed (answers_tupleField within))).bind fun _ h => answers_pure h

theorem answers_variant : Answers (variant within) fun v => v.fields.IsFormed := by
  rw [variant]
  refine answers_bind fun _ => answers_bind fun _ => answers_bind fun text => ?_
  have valued (fields : Fields) (formed : fields.IsFormed) :
      Answers (do if ← mark? "=" then within.value
                  return ⟨text, fields⟩ : Reader Variant) fun v => v.fields.IsFormed := by
    refine answers_bind fun equals => ?_
    cases equals with
    | true => exact answers_bind fun _ => answers_pure formed
    | false => exact answers_pure formed
  refine answers_bind fun ts => .ite ?_ (.ite ?_ ?_)
  · exact ((answers_namedFields within).mono fun _ => .named).map.bind valued
  · exact ((answers_tupleFields within).mono fun _ => .tuple).map.bind valued
  · exact (answers_pure Fields.IsFormed.unit).bind valued

theorem answers_structContent : Answers (structContent within) fun x => x.2.IsFormed := by
  rw [structContent]
  refine answers_bind fun before => answers_bind fun ts => .ite ?_ (.ite ?_ ?_)
  · refine (answers_tupleFields within).bind fun _ formed => ?_
    refine answers_bind fun _ => answers_bind fun _ => ?_
    exact .ite (answers_pure (.tuple formed)) (answers_bind fun _ => answers_pure (.tuple formed))
  · exact (answers_namedFields within).bind fun _ formed => answers_pure (.named formed)
  · exact answers_bind fun _ => .ite (answers_pure .unit) (answers_bind fun _ => answers_pure .unit)

theorem answers_item : Answers (item within) fun x => x.content.IsFormed := by
  rw [item]
  refine answers_bind fun _ => answers_bind fun _ => answers_bind fun _ => answers_bind fun _ => ?_
  refine .ite ?_ (answers_bind fun _ => ?_)
  -- both go on in the same way, since a failure does not come back
  all_goals
    refine answers_bind fun _ => answers_bind fun _ => .ite ?_ (answers_bind fun _ => .ite ?_ ?_)
    · exact (answers_structContent within).bind fun _ formed => answers_pure formed
    · have variants := answers_group (d := .brace) (answers_listed (answers_variant within))
      exact variants.map.map.bind fun _ formed => answers_pure formed
    · exact (answers_namedFields within).map.bind fun _ formed => answers_pure formed

end Reader

theorem Item.isFormed_of_ofText? {text : String} {item : Item} (h : ofText? text = some item) :
    item.content.IsFormed := by
  rw [ofText?] at h
  obtain ⟨trees, -, h⟩ := Option.bind_eq_some_iff.mp h
  split at h
  · rename_i read
    obtain rfl := Option.some.inj h
    exact Reader.answers_item _ _ _ _ (Reader.run_whole_eq_ok.mp read).1
  · cases h

end MarkSweep.Derive

import MarkSweep.Derive.Expansion
import MarkSweep.Proofs.Derive.Attribute
import MarkSweep.Proofs.Derive.Item
import Mathlib.Logic.Function.Basic

namespace MarkSweep.Derive

open Word

def Field.IsUnderstood (f : Field) : Prop :=
  ∀ a ∈ f.attributes, a.isOwn → ∃ us, a.Lists SkipEntry us

def Fields.unskipped (fields : Fields) : List (Field × Nat) :=
  fields.list.zipIdx.filter fun x => !x.1.hasSkip

theorem tracedFrom_eq_ok_iff {fs : List Field} {place : Nat} {traced : List (Nat × Field)} :
    tracedFrom place fs = .ok traced ↔ (∀ f ∈ fs, f.IsUnderstood) ∧
      traced = ((fs.zipIdx place).filter fun x => !x.1.hasSkip).map Prod.swap := by
  -- the place counts on whether the first field is skipped or not
  induction fs generalizing place traced with
  | nil => simp [tracedFrom, eq_comm]
  | cons f fs ih =>
    simp only [tracedFrom, bind_eq_ok_iff, pure_eq_ok_iff, Field.isSkipped_eq_ok_iff, ih,
      List.forall_mem_cons, List.zipIdx_cons, List.filter_cons]
    constructor
    · rintro ⟨_, ⟨understood, rfl⟩, _, ⟨others, rfl⟩, rfl⟩
      refine ⟨⟨understood, others⟩, ?_⟩
      cases f.hasSkip <;> rfl
    · rintro ⟨⟨understood, others⟩, rfl⟩
      refine ⟨_, ⟨understood, rfl⟩, _, ⟨others, rfl⟩, ?_⟩
      cases f.hasSkip <;> rfl

theorem Fields.traced_eq_ok_iff {fields : Fields} {traced : List (Nat × Field)} :
    fields.traced = .ok traced ↔ (∀ f ∈ fields.list, f.IsUnderstood) ∧
      traced = fields.unskipped.map Prod.swap :=
  tracedFrom_eq_ok_iff

namespace Variant

def tracingArm (v : Variant) : Arm := ⟨v.name, v.fields, v.fields.unskipped.map Prod.snd⟩

theorem arm_eq_ok_iff {v : Variant} {arm : Arm} :
    v.arm = .ok arm ↔ (∀ f ∈ v.fields.list, f.IsUnderstood) ∧ arm = v.tracingArm := by
  simp only [Variant.arm, bind_eq_ok_iff, pure_eq_ok_iff, Fields.traced_eq_ok_iff, and_assoc,
    exists_and_left, exists_eq_left, List.map_map]
  rfl

theorem mapM_arm_eq_ok_iff {variants : List Variant} {arms : List Arm} :
    variants.mapM arm = .ok arms ↔
      (∀ v ∈ variants, ∀ f ∈ v.fields.list, f.IsUnderstood) ∧ arms = variants.map tracingArm := by
  induction variants generalizing arms with
  | nil => simp [pure_eq_ok_iff]
  | cons v vs ih =>
    simp only [List.mapM_cons, bind_eq_ok_iff, pure_eq_ok_iff, arm_eq_ok_iff, ih, and_assoc,
      exists_and_left, exists_eq_left, List.forall_mem_cons, List.map_cons]

end Variant

namespace Content

def isUnion : Content → Bool
  | union _ => true
  | _ => false

def fields : Content → List Field
  | struct fields => fields.list
  | enum variants => variants.flatMap fun v => v.fields.list
  | union fields => fields

def tracingBody : Content → Body
  | struct fields => .members (fields.unskipped.map fun (f, place) => f.member place)
  | enum variants => .arms (variants.map Variant.tracingArm)
  | union _ => .members []

theorem body_eq_ok_iff {content : Content} {b : Body} : content.body = .ok b ↔
    content.isUnion = false ∧ (∀ f ∈ content.fields, f.IsUnderstood) ∧
      b = content.tracingBody := by
  match content with
  | struct fs =>
    simp only [body, bind_eq_ok_iff, pure_eq_ok_iff, Fields.traced_eq_ok_iff, isUnion, fields,
      tracingBody, and_assoc, exists_and_left, exists_eq_left, true_and, List.map_map]
    rfl
  | enum variants =>
    simp only [body, bind_eq_ok_iff, pure_eq_ok_iff, Variant.mapM_arm_eq_ok_iff, isUnion, fields,
      tracingBody, List.forall_mem_flatMap, and_assoc, exists_and_left, exists_eq_left, true_and]
  | union _ => simp [body, isUnion]

end Content

theorem Item.expand_eq_ok_iff {item : Item} {i : Implementation} : item.expand = .ok i ↔
    ∃ paths, Attribute.ListAll RootEntry item.attributes paths ∧ item.content.isUnion = false ∧
      (∀ f ∈ item.content.fields, f.IsUnderstood) ∧
      i =
        let root := paths.getLast?.getD (plain ["::", "zinc_gc"])
        ⟨root, item.name, item.generics.traceable root, item.content.tracingBody⟩ := by
  simp only [expand, bind_eq_ok_iff, pure_eq_ok_iff, root_eq_ok_iff, Content.body_eq_ok_iff]
  constructor
  · rintro ⟨_, ⟨paths, list, rfl⟩, _, ⟨struct, understood, rfl⟩, rfl⟩
    exact ⟨paths, list, struct, understood, rfl⟩
  · rintro ⟨paths, list, struct, understood, rfl⟩
    exact ⟨_, ⟨paths, list, rfl⟩, _, ⟨struct, understood, rfl⟩, rfl⟩

theorem Item.expand_eq_error_iff {item : Item} : (∃ e, item.expand = .error e) ↔
    item.content.isUnion = true ∨
      (∃ a ∈ item.attributes, a.isOwn ∧ ¬∃ paths, a.Lists RootEntry paths) ∨
      ∃ f ∈ item.content.fields, ∃ a ∈ f.attributes, a.isOwn ∧ ¬∃ us, a.Lists SkipEntry us := by
  have accepted : (∃ i, item.expand = .ok i) ↔
      (∀ a ∈ item.attributes, a.isOwn → ∃ paths, a.Lists RootEntry paths) ∧
        item.content.isUnion = false ∧ ∀ f ∈ item.content.fields, f.IsUnderstood := by
    rw [← Attribute.exists_listAll_iff]
    simp only [expand_eq_ok_iff]
    constructor
    · rintro ⟨_, paths, list, struct, understood, rfl⟩
      exact ⟨⟨paths, list⟩, struct, understood⟩
    · rintro ⟨⟨paths, list⟩, struct, understood⟩
      exact ⟨_, paths, list, struct, understood, rfl⟩
  have refused : (∃ e, item.expand = .error e) ↔ ¬∃ i, item.expand = .ok i := by
    cases item.expand <;> simp
  rw [refused, accepted]
  simp only [Field.IsUnderstood, not_and_or, not_forall, Bool.not_eq_false, exists_prop]
  exact or_left_comm

inductive Binds (bound : Nat → String) : Fields → List Word → Prop
  | named {fields : List Field} {names : List String} :
      fields.map Field.name = names.map some →
      Binds bound (.named fields) (plain ("\x7b" :: [","].intercalate
        (names.zipIdx.map fun (name, place) => [name, ":", bound place]) ++ ["\x7d"]))
  | tuple {fields : List Field} :
      Binds bound (.tuple fields) (plain ("(" :: [","].intercalate
        ((List.range fields.length).map fun place => [bound place]) ++ [")"]))
  | unit : Binds bound .unit []

inductive TracesVariant (root : List Word) (item : String) : Variant → List Word → Prop
  | intro {v : Variant} {bound : Nat → String} {pattern : List Word} :
      bound.Injective → (∀ place, bound place ≠ "tracer") → Binds bound v.fields pattern →
      TracesVariant root item v
        (plain [item, "::", v.name] ++ pattern ++ plain ["=>", "\x7b"] ++
          (v.fields.unskipped.flatMap fun (_, place) => root ++ plain
            ["::", "Trace", "::", "trace", "(", bound place, ",", "tracer", ")", ";"]) ++
          plain ["\x7d"])

/-- The words of a body: for a struct a call for each field that is not skipped, by its name or by
its place, and for an enum a match with an arm for each variant. -/
inductive Traces (root : List Word) (item : String) : Content → List Word → Prop
  | struct {fields : Fields} : Traces root item (.struct fields)
      (fields.unskipped.flatMap fun (f, place) => root ++ plain
        ["::", "Trace", "::", "trace", "(", "&", "self", ".", f.name.getD (toString place), ",",
          "tracer", ")", ";"])
  | noVariants : Traces root item (.enum []) (plain ["match", "*", "self", "\x7b", "\x7d"])
  | variants {vs : List Variant} {arms : List (List Word)} : vs ≠ [] →
      List.Forall₂ (TracesVariant root item) vs arms →
      Traces root item (.enum vs)
        (plain ["match", "self", "\x7b"] ++ arms.flatten ++ plain ["\x7d"])

theorem binding_injective : binding.Injective := by
  intro i j same
  -- the digits of a place can be read back
  have digits : Nat.toDigits 10 i = Nat.toDigits 10 j := by
    simpa [binding, String.toList_append] using congrArg String.toList same
  simpa using congrArg (Nat.ofDigitChars 10 · 0) digits

theorem binding_ne (place : Nat) : binding place ≠ "tracer" := by
  intro same
  have first := congrArg (fun s : String => s.toList.head?) same
  simp [binding, String.toList_append] at first

theorem exists_map_some_of_isSome {α : Type} {xs : List (Option α)} (given : ∀ x ∈ xs, x.isSome) :
    ∃ as : List α, xs = as.map some := by
  induction xs with
  | nil => exact ⟨[], rfl⟩
  | cons x xs ih =>
    obtain ⟨first, others⟩ := List.forall_mem_cons.mp given
    obtain ⟨a, rfl⟩ := Option.isSome_iff_exists.mp first
    obtain ⟨as, rfl⟩ := ih others
    exact ⟨a :: as, rfl⟩

theorem filterMap_zipIdx_of_map_name {α : Type} {fields : List Field} {names : List String}
    (given : fields.map Field.name = names.map some) (f : String → Nat → α) (place : Nat) :
    ((fields.zipIdx place).filterMap fun (field, i) => field.name.map (f · i)) =
      (names.zipIdx place).map fun (name, i) => f name i := by
  induction fields generalizing names place with
  | nil =>
    obtain rfl : names = [] := by simpa using given.symm
    rfl
  | cons field fields ih =>
    cases names with
    | nil => simp at given
    | cons name names =>
      obtain ⟨first, others⟩ := List.cons.inj given
      simp [List.zipIdx_cons, first, ih others]

theorem Fields.IsFormed.binds {fields : Fields} (formed : fields.IsFormed) :
    Binds binding fields (plain fields.pattern) := by
  cases formed with
  | @named fields named =>
    obtain ⟨names, given⟩ := exists_map_some_of_isSome (List.forall_mem_map.mpr named)
    rw [pattern, filterMap_zipIdx_of_map_name given fun name place => [name, ":", binding place]]
    exact .named given
  | tuple _ => exact .tuple
  | unit => exact .unit

theorem Variant.traces {v : Variant} (root : List Word) (item : String)
    (formed : v.fields.IsFormed) : TracesVariant root item v (v.tracingArm.words root item) := by
  have traced : TracesVariant root item v _ :=
    .intro binding_injective binding_ne formed.binds
  rw [tracingArm, Arm.words, List.flatMap_map, plain, List.map_append, List.map_append]
  exact traced

theorem Content.IsFormed.traces {content : Content} (root : List Word) (item : String)
    (formed : content.IsFormed) (struct : content.isUnion = false) :
    Traces root item content (content.tracingBody.words root item) := by
  match content with
  | .struct fields =>
    rw [tracingBody, Body.words, List.flatMap_map]
    exact .struct
  | .enum [] => exact .noVariants
  | .enum (v :: vs) =>
    have arms : List.Forall₂ (TracesVariant root item) (v :: vs)
        ((v :: vs).map fun v => v.tracingArm.words root item) := by
      rw [List.forall₂_map_right_iff, List.forall₂_same]
      exact fun v hv => v.traces root item (formed v hv)
    have words : (Content.enum (v :: vs)).tracingBody.words root item =
        plain ["match", "self", "\x7b"] ++
          ((v :: vs).map fun v => v.tracingArm.words root item).flatten ++ plain ["\x7d"] := by
      rw [← List.flatMap_def, ← List.flatMap_map]
      rfl
    rw [words]
    exact .variants (List.cons_ne_nil v vs) arms

def Argument.delimiter? : Argument → Option Delimiter
  | list d _ => some d
  | _ => Option.none

theorem exists_eq_ok_of_isOk {ε α : Type} {x : Except ε α} (accepted : x.isOk) :
    ∃ a, x = .ok a := by
  cases x with
  | error e => cases accepted
  | ok a => exact ⟨a, rfl⟩

namespace Item

variable {item : Item}

/-- What is accepted is traced field by field, and nothing else is accepted. -/
theorem expand_traces_unskipped (formed : item.content.IsFormed) :
    ((∃ e, item.expand = .error e) ↔
      item.content.isUnion = true ∨
      (∃ a ∈ item.attributes, a.isOwn ∧ ¬∃ paths, a.Lists RootEntry paths) ∨
      ∃ f ∈ item.content.fields, ∃ a ∈ f.attributes, a.isOwn ∧ ¬∃ us, a.Lists SkipEntry us) ∧
    ∀ i, item.expand = .ok i → ∃ paths root body,
      Attribute.ListAll RootEntry item.attributes paths ∧
      root = paths.getLast?.getD (plain ["::", "zinc_gc"]) ∧
      Traces root item.name item.content body ∧
      i.words = plain ["impl"] ++ i.generics.declared ++ root ++
        plain ["::", "Trace", "for", item.name] ++ i.generics.applied ++ i.generics.whereClause ++
        plain ["\x7b"] ++ Implementation.signature root ++ plain ["\x7b"] ++ body ++
        plain ["\x7d", "\x7d"] := by
  refine ⟨expand_eq_error_iff, fun i accepted => ?_⟩
  obtain ⟨paths, list, struct, -, rfl⟩ := expand_eq_ok_iff.mp accepted
  exact ⟨paths, _, _, list, rfl, formed.traces _ _ struct, rfl⟩

theorem expand_traces_unskipped_enum : ∃ item i body,
    ofText? "enum Expr \x7b Pair(#[zinc_gc(skip)] u8, Node), Leaf \x7b node: Node \x7d, End \x7d" =
      some item ∧ item.expand = .ok i ∧ Traces (plain ["::", "zinc_gc"]) "Expr" item.content body ∧
      body <:+: i.words := by
  have read : (ofText?
      "enum Expr \x7b Pair(#[zinc_gc(skip)] u8, Node), Leaf \x7b node: Node \x7d, End \x7d").any
      (fun item => item.expand.isOk && item.attributes.isEmpty && item.name == "Expr") = true := by
    decide +kernel
  obtain ⟨item, declared, settled⟩ := (Option.any_eq_true _ _).mp read
  simp only [Bool.and_eq_true, List.isEmpty_iff, beq_iff_eq] at settled
  obtain ⟨⟨accepted, bare⟩, name⟩ := settled
  obtain ⟨i, expansion⟩ := exists_eq_ok_of_isOk accepted
  obtain ⟨paths, _, body, list, rfl, traces, words⟩ :=
    (expand_traces_unskipped (isFormed_of_ofText? declared)).2 i expansion
  obtain ⟨_, none, rfl⟩ := list
  rw [bare] at none
  cases none
  rw [name] at traces
  exact ⟨item, i, body, declared, expansion, traces, words ▸ List.infix_append ..⟩

/-- The list of an attribute need not stand in parentheses. -/
theorem exists_expand_of_bracketed_skip : ∃ item f a i,
    ofText? "struct S \x7b #[zinc_gc[skip]] a: u8 \x7d" = some item ∧ f ∈ item.content.fields ∧
      a ∈ f.attributes ∧ a.isOwn ∧
      (¬∃ ts us, a.argument = .list .paren ts ∧ Entries SkipEntry ts us) ∧
      item.expand = .ok i := by
  have read : (ofText? "struct S \x7b #[zinc_gc[skip]] a: u8 \x7d").any (fun item =>
      item.expand.isOk && item.content.fields.any fun f => f.attributes.any fun a =>
        a.isOwn && a.argument.delimiter? == some .bracket) = true := by
    decide +kernel
  obtain ⟨item, declared, settled⟩ := (Option.any_eq_true _ _).mp read
  simp only [Bool.and_eq_true, List.any_eq_true, beq_iff_eq] at settled
  obtain ⟨accepted, f, hf, a, ha, own, bracketed⟩ := settled
  obtain ⟨i, expansion⟩ := exists_eq_ok_of_isOk accepted
  refine ⟨item, f, a, i, declared, hf, ha, own, ?_, expansion⟩
  rintro ⟨ts, us, argument, -⟩
  simp [argument, Argument.delimiter?] at bracketed

end Item

end MarkSweep.Derive

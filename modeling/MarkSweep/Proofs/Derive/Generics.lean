import MarkSweep.Proofs.Derive.Expansion

/-!
How the parameters of an item come back in its implementation. Nothing but their own bounds decides
which of them are bounded: what the fields are and which of them are skipped does not matter.
-/

namespace MarkSweep.Derive

open Word

namespace Separated

variable {α β : Type}

theorem pairsOf_map (f : α → β) (trailing : Bool) (as : List α) :
    pairsOf trailing (as.map f) = (pairsOf trailing as).map fun p => (f p.1, p.2) := by
  fun_induction pairsOf trailing as <;> simp_all [pairsOf]

theorem wordsFirst_map {f : α → β} {first : α → Bool} {first' : β → Bool} {words : β → List Word}
    (kept : ∀ a, first' (f a) = first a) (s : Separated α) :
    wordsFirst first' words ⟨s.items.map f, s.trailing⟩ =
      s.wordsFirst first fun a => words (f a) := by
  have early : (fun p : β × Bool => first' p.1) ∘ (fun p : α × Bool => (f p.1, p.2)) =
      fun p => first p.1 := funext fun p => kept p.1
  simp only [wordsFirst, pairs, pairsOf_map, List.partition_eq_filter_filter, List.filter_map,
    Function.comp_assoc, early, List.flatMap_map, List.getLast?_map, Option.any_map,
    List.isEmpty_map]
  rfl

end Separated

namespace Parameter

def bounds : Parameter → List Bound
  | type _ _ bounds _ => bounds.items
  | _ => []

def isType : Parameter → Bool
  | type .. => true
  | _ => false

def withoutDefault : Parameter → Parameter
  | lifetime attributes name bounds => lifetime attributes name bounds
  | type attributes name bounds _ => type attributes name bounds []
  | const attributes name ty _ => const attributes name ty []

theorem isLifetime_withoutDefault (p : Parameter) :
    p.withoutDefault.isLifetime = p.isLifetime := by
  cases p <;> rfl

theorem words_withoutDefault (p : Parameter) : p.withoutDefault.words = p.declaration := by
  cases p <;> simp [words, withoutDefault, declaration, default]

/-- How a parameter is carried over: without its default, and a type parameter with a further bound
unless one of its own demands tracing already. -/
inductive Carries (root : List Word) : Parameter → Parameter → Prop
  | lifetime {attributes : List Word} {name : String} {bounds : Separated (List Word)} :
      Carries root (.lifetime attributes name bounds) (.lifetime attributes name bounds)
  | const {attributes ty default : List Word} {name : String} :
      Carries root (.const attributes name ty default) (.const attributes name ty [])
  | demanded {attributes default : List Word} {name : String} {bounds : Separated Bound} :
      (∃ b ∈ bounds.items, b.demandsTracing) →
      Carries root (.type attributes name bounds default) (.type attributes name bounds [])
  | bounded {attributes default : List Word} {name : String} {bounds : Separated Bound} :
      (∀ b ∈ bounds.items, ¬b.demandsTracing) →
      Carries root (.type attributes name bounds default) (.type attributes name
        ⟨bounds.items ++ [⟨root ++ plain ["::", "Trace"], .trait "Trace"⟩], false⟩ [])

theorem carries (root : List Word) (p : Parameter) :
    Carries root p (p.traceable root).withoutDefault := by
  match p with
  | lifetime .. => exact .lifetime
  | const .. => exact .const
  | type attributes name bounds default =>
    rw [traceable]
    split
    case isTrue demands => exact .demanded (List.any_eq_true.mp demands)
    case isFalse none => exact .bounded (by simpa using none)

theorem Carries.demandsTracing {root : List Word} {p q : Parameter} (carries : Carries root p q)
    (type : q.isType) : ∃ b ∈ q.bounds, b.demandsTracing := by
  cases carries with
  | lifetime | const => cases type
  | demanded demands => exact demands
  | bounded _ => exact ⟨_, List.mem_append_right _ List.mem_cons_self, rfl⟩

end Parameter

namespace Generics

variable (root : List Word) (g : Generics)

theorem parameterList_map {f : Parameter → Parameter} {words : Parameter → List Word}
    (kept : ∀ p, (f p).isLifetime = p.isLifetime) (predicates : Separated (List Word)) :
    parameterList ⟨⟨g.parameters.items.map f, g.parameters.trailing⟩, predicates⟩ words =
      g.parameterList fun p => words (f p) := by
  simp only [parameterList, List.isEmpty_map, Separated.wordsFirst_map kept]

theorem applied_traceable : (g.traceable root).applied = g.applied := by
  rw [applied, traceable, g.parameterList_map (Parameter.isLifetime_traceable root), applied]
  simp only [Parameter.name_traceable]

theorem declared_traceable : (g.traceable root).declared =
    parameterList ⟨⟨g.parameters.items.map fun p => (p.traceable root).withoutDefault,
      g.parameters.trailing⟩, {}⟩ Parameter.words := by
  have kept (p : Parameter) : (p.traceable root).withoutDefault.isLifetime = p.isLifetime := by
    rw [Parameter.isLifetime_withoutDefault, Parameter.isLifetime_traceable]
  rw [declared, traceable, g.parameterList_map (Parameter.isLifetime_traceable root),
    g.parameterList_map kept]
  simp only [Parameter.words_withoutDefault]

end Generics

namespace Item

variable {item : Item} {i : Implementation}

/-- Each type parameter is bounded unless its own bounds demand tracing already, no matter what the
fields are; all else that is generic is carried over. -/
theorem expand_carries_parameters (accepted : item.expand = .ok i) : ∃ paths root ps body,
    Attribute.ListAll RootEntry item.attributes paths ∧
    root = paths.getLast?.getD (plain ["::", "zinc_gc"]) ∧
    List.Forall₂ (Parameter.Carries root) item.generics.parameters.items ps ∧
    (∀ p ∈ ps, p.isType → ∃ b ∈ p.bounds, b.demandsTracing) ∧
    i.words = plain ["impl"] ++
      Generics.parameterList ⟨⟨ps, item.generics.parameters.trailing⟩, {}⟩ Parameter.words ++
      root ++ plain ["::", "Trace", "for", item.name] ++ item.generics.applied ++
      item.generics.whereClause ++ plain ["\x7b"] ++ Implementation.signature root ++
      plain ["\x7b"] ++ body ++ plain ["\x7d", "\x7d"] := by
  obtain ⟨paths, list, struct, -, rfl⟩ := expand_eq_ok_iff.mp accepted
  let root := paths.getLast?.getD (plain ["::", "zinc_gc"])
  refine ⟨paths, root,
    item.generics.parameters.items.map fun p => (p.traceable root).withoutDefault,
    item.content.tracingBody.words root item.name, list, rfl, ?_, ?_, ?_⟩
  · exact List.forall₂_map_right_iff.mpr (List.forall₂_same.mpr fun p _ => p.carries _)
  · rintro _ h
    obtain ⟨p, -, rfl⟩ := List.mem_map.mp h
    exact (p.carries _).demandsTracing
  · rw [Implementation.words, Generics.declared_traceable, Generics.applied_traceable]
    rfl

theorem expand_carries_parameters_struct : ∃ item i ps,
    ofText? "struct S<T: Clone = u8, const N: usize = 3> where T: Copy \x7b a: [T; N] \x7d" =
      some item ∧ item.expand = .ok i ∧ item.generics.parameters.items.length = 2 ∧
      List.Forall₂ (Parameter.Carries (plain ["::", "zinc_gc"]))
        item.generics.parameters.items ps := by
  have read : (ofText?
      "struct S<T: Clone = u8, const N: usize = 3> where T: Copy \x7b a: [T; N] \x7d").any
      (fun item => item.expand.isOk && item.attributes.isEmpty &&
        item.generics.parameters.items.length == 2) = true := by
    decide +kernel
  obtain ⟨item, declared, settled⟩ := (Option.any_eq_true _ _).mp read
  simp only [Bool.and_eq_true, List.isEmpty_iff, beq_iff_eq] at settled
  obtain ⟨⟨accepted, bare⟩, two⟩ := settled
  obtain ⟨i, expansion⟩ := exists_eq_ok_of_isOk accepted
  obtain ⟨_, _, ps, body, ⟨_, none, rfl⟩, rfl, carries, -⟩ := expand_carries_parameters expansion
  rw [bare] at none
  cases none
  exact ⟨item, i, ps, declared, expansion, two, carries⟩

/-- A parameter is bounded even if it occurs in the type of a skipped field only. -/
theorem expand_bounds_skipped_parameter : ∃ item i,
    ofText? "struct S<T> \x7b #[zinc_gc(skip)] a: T \x7d" = some item ∧ item.expand = .ok i ∧
      item.generics = { parameters := ⟨[.type [] "T" {} []], false⟩ } ∧
      (∃ f ∈ item.content.fields, f.type = plain ["T"]) ∧
      (∀ f ∈ item.content.fields, f.hasSkip) ∧
      i.generics.parameters.items =
        [.type [] "T" ⟨[⟨plain ["::", "zinc_gc", "::", "Trace"], .trait "Trace"⟩], false⟩ []] := by
  have read : (ofText? "struct S<T> \x7b #[zinc_gc(skip)] a: T \x7d").any (fun item =>
      item.generics == { parameters := ⟨[.type [] "T" {} []], false⟩ } &&
      item.content.fields.any (fun f => f.type == plain ["T"]) &&
      item.content.fields.all Field.hasSkip &&
      match item.expand with
      | .ok i => i.generics.parameters.items ==
        [.type [] "T" ⟨[⟨plain ["::", "zinc_gc", "::", "Trace"], .trait "Trace"⟩], false⟩ []]
      | .error _ => false) = true := by
    decide +kernel
  obtain ⟨item, declared, settled⟩ := (Option.any_eq_true _ _).mp read
  simp only [Bool.and_eq_true, beq_iff_eq, List.all_eq_true, List.any_eq_true] at settled
  obtain ⟨⟨⟨generics, occurs⟩, skipped⟩, bounded⟩ := settled
  split at bounded
  case h_1 i accepted =>
    exact ⟨item, i, declared, accepted, generics, occurs, skipped, beq_iff_eq.mp bounded⟩
  case h_2 => cases bounded

end Item

end MarkSweep.Derive

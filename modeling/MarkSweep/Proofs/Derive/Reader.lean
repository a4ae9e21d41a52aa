import MarkSweep.Derive.Reader.Basic

/-!
What the readers do, said of the cursor before and the cursor after. A reader that succeeds only
takes trees and adds words, which is what its answer can be traced back by.
-/

namespace MarkSweep.Derive.Reader

variable {α β : Type} {r : Reader α} {c d : Cursor} {a : α}

theorem precedes_of_run (h : r.run c = .ok (a, d)) : c.Precedes d := by
  rw [run] at h
  cases hr : r c with
  | error e => simp [hr, Except.map] at h
  | ok x =>
    rw [hr] at h
    obtain ⟨-, rfl⟩ := Prod.mk.inj (Except.ok.inj h)
    exact x.precedes

theorem run_bind (r : Reader α) (f : α → Reader β) (c : Cursor) :
    (r >>= f).run c = (r.run c).bind fun x => (f x.1).run x.2 := by
  simp only [run, bind]
  cases r c with
  | error e => rfl
  | ok x =>
    simp only [Except.map, Except.bind]
    cases f x.answer x.cursor <;> rfl

theorem run_bind_eq_ok {f : α → Reader β} {b : β} :
    (r >>= f).run c = .ok (b, d) ↔ ∃ a e, r.run c = .ok (a, e) ∧ (f a).run e = .ok (b, d) := by
  rw [run_bind]
  cases r.run c with
  | error e => simp [Except.bind]
  | ok x => simp [Except.bind, Prod.ext_iff, and_assoc]

@[simp] theorem run_pure (a : α) (c : Cursor) : (pure a : Reader α).run c = .ok (a, c) := rfl

@[simp] theorem run_trees (c : Cursor) : trees.run c = .ok (c.trees, c) := rfl

@[simp] theorem run_cursor (c : Cursor) : cursor.run c = .ok (c, c) := rfl

@[simp] theorem run_complain (e : Complaint) (c : Cursor) :
    (complain e : Reader α).run c = .error e := rfl

@[simp] theorem run_refuse (description : String) (c : Cursor) :
    (refuse description : Reader α).run c = .error (.expected description false) := rfl

@[simp] theorem run_fail (description : String) (c : Cursor) :
    (fail description : Reader α).run c = .error (.expected description c.trees.isEmpty) := rfl

@[simp] theorem run_take (count : Nat) (words : List Word) (c : Cursor) :
    (take count words).run c =
      .ok ((), { c with trees := c.trees.drop count, words := words.reverse ++ c.words }) := rfl

@[simp] theorem run_discard (r : Reader α) (c : Cursor) :
    (discard r).run c = (r.run c).map fun x => ((), x.2) := by
  have unfolded : (discard r).run c = (r >>= fun _ => pure ()).run c := rfl
  rw [unfolded, run_bind]
  cases r.run c <;> rfl

theorem run_mark?_of_atMark {text : String} (stands : atMark text c.trees = true) :
    (mark? text).run c = .ok (true,
      { c with trees := c.trees.drop text.length, words := (text : Word) :: c.words }) := by
  simp [mark?, run_bind, Except.bind, stands]

theorem run_mark?_of_not_atMark {text : String} (missing : atMark text c.trees = false) :
    (mark? text).run c = .ok (false, c) := by
  simp [mark?, run_bind, Except.bind, missing]

theorem run_mark (text : String) (c : Cursor) : (mark text).run c =
    if atMark text c.trees then
      .ok ((), { c with trees := c.trees.drop text.length, words := (text : Word) :: c.words })
    else .error (.expected ("expected " ++ quoted text) false) := by
  rw [mark, run_bind]
  cases stands : atMark text c.trees with
  | true => rw [run_mark?_of_atMark stands]; rfl
  | false => rw [run_mark?_of_not_atMark stands]; rfl

theorem run_anyName_of_trees {name : String} {rest : List Tree}
    (trees : c.trees = .leaf (.name name) :: rest) : anyName.run c =
      .ok (name, { c with trees := rest, words := (name : Word) :: c.words }) := by
  simp [anyName, run_bind, Except.bind, trees]

theorem run_capture (r : Reader α) (c : Cursor) : (capture r).run c =
    (r.run { c with words := [] }).map fun x =>
      ((x.1, x.2.words.reverse), { x.2 with words := c.words }) := by
  simp only [run, capture]
  cases r { c with words := [] } <;> rfl

theorem run_noting (r : Reader α) (c : Cursor) : (noting r).run c =
    (r.run { c with words := [] }).map fun x =>
      ((x.1, x.2.words.reverse), { x.2 with words := x.2.words ++ c.words }) := by
  rw [noting, run_bind, run_capture]
  cases r.run { c with words := [] } with
  | error e => rfl
  | ok x => simp [Except.map, Except.bind, run_bind, emit]

theorem run_whole_eq_ok :
    (whole r).run c = .ok (a, d) ↔ r.run c = .ok (a, d) ∧ d.unread = none ∧ d.trees = [] := by
  rw [whole, run_bind_eq_ok]
  constructor
  · rintro ⟨b, e, hr, finished⟩
    rw [run_bind, run_cursor] at finished
    simp only [Except.bind] at finished
    cases unread : e.unread with
    | some d => simp [unread] at finished
    | none =>
      simp only [unread, run_bind, run_trees, Except.bind] at finished
      split at finished
      case isTrue done =>
        obtain ⟨rfl, rfl⟩ := Prod.mk.inj (Except.ok.inj finished)
        exact ⟨hr, unread, List.isEmpty_iff.mp done⟩
      case isFalse => simp at finished
  · rintro ⟨hr, unread, done⟩
    exact ⟨a, d, hr, by simp [run_bind, unread, done, Except.bind]⟩

def Exhausts (r : Reader α) (c : Cursor) (a : α) : Prop :=
  ∃ d, r.run c = .ok (a, d) ∧ d.unread = none ∧ d.trees = []

theorem exhausts_pure {b : α} :
    Exhausts (pure b) c a ↔ c.unread = none ∧ c.trees = [] ∧ a = b := by
  simp only [Exhausts, run_pure, Except.ok.injEq, Prod.mk.injEq]
  constructor
  · rintro ⟨_, ⟨rfl, rfl⟩, unread, done⟩
    exact ⟨unread, done, rfl⟩
  · rintro ⟨unread, done, rfl⟩
    exact ⟨c, ⟨rfl, rfl⟩, unread, done⟩

theorem exhausts_bind {f : α → Reader β} {b : β} :
    Exhausts (r >>= f) c b ↔ ∃ a e, r.run c = .ok (a, e) ∧ Exhausts (f a) e b := by
  simp only [Exhausts, run_bind_eq_ok]
  constructor
  · rintro ⟨d, ⟨a, e, read, rest⟩, finished⟩
    exact ⟨a, e, read, d, rest, finished⟩
  · rintro ⟨a, e, read, d, rest, finished⟩
    exact ⟨d, ⟨a, e, read, rest⟩, finished⟩

theorem exhausts_trees_bind {f : List Tree → Reader β} {b : β} :
    Exhausts (trees >>= f) c b ↔ Exhausts (f c.trees) c b := by
  simp only [Exhausts, run_bind, run_trees, Except.bind]

theorem exhausts_bind_pure {f : α → β} {b : β} :
    Exhausts (r >>= fun a => pure (f a)) c b ↔ ∃ a, Exhausts r c a ∧ b = f a := by
  rw [exhausts_bind]
  simp only [exhausts_pure]
  constructor
  · rintro ⟨a, e, read, unread, done, rfl⟩
    exact ⟨a, ⟨e, read, unread, done⟩, rfl⟩
  · rintro ⟨a, ⟨e, read, unread, done⟩, rfl⟩
    exact ⟨a, e, read, unread, done, rfl⟩

end MarkSweep.Derive.Reader

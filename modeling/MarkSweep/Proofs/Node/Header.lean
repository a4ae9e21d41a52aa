import MarkSweep.Node.Header

namespace MarkSweep

theorem Flag.position_inj {f g : Flag} (same : f.position = g.position) : f = g := by
  cases f <;> cases g <;> simp_all [position]

theorem Flag.le_position (f : Flag) : 15 ≤ f.position := by
  cases f <;> decide

namespace Header

theorem kind_congr {a b : Header}
    (low : ∀ i, 0 < i → i < 8 → a.word.getLsbD i = b.word.getLsbD i) : a.kind = b.kind := by
  have ids : a.kind.id = b.kind.id := by
    apply BitVec.eq_of_getLsbD_eq
    intro i hi
    simp [kind, low (1 + i) (by omega) (by omega)]
  exact congrArg Kind.mk ids

theorem secondary_congr {a b : Header}
    (middle : ∀ i, 8 ≤ i → i < 15 → a.word.getLsbD i = b.word.getLsbD i) :
    a.secondary = b.secondary := by
  apply BitVec.eq_of_getLsbD_eq
  intro i hi
  simp [secondary, middle (8 + i) (by omega) (by omega)]

theorem flag_congr {a b : Header} {f : Flag}
    (bit : a.word.getLsbD f.position = b.word.getLsbD f.position) : a.flag f = b.flag f := by
  rw [flag_eq, flag_eq, bit]

theorem getLsbD_mark (h : Header) (i : Nat) :
    h.mark.word.getLsbD i = (h.word.getLsbD i || decide (i = 0)) := by
  simp only [mark, markMask, BitVec.getLsbD_or]
  cases i <;> simp

theorem getLsbD_clearMark (h : Header) (i : Nat) :
    h.clearMark.word.getLsbD i = (h.word.getLsbD i && !decide (i = 0)) := by
  simp only [clearMark, markMask, BitVec.getLsbD_and, BitVec.getLsbD_not]
  by_cases hi : i < 32
  · cases i <;> simp [hi]
  · simp [BitVec.getLsbD_of_ge h.word i (by omega)]

@[simp] theorem isMarked_mark (h : Header) : h.mark.isMarked = true := by
  simp [isMarked_eq, getLsbD_mark]

@[simp] theorem isMarked_clearMark (h : Header) : h.clearMark.isMarked = false := by
  rw [isMarked_eq, getLsbD_clearMark]
  simp

@[simp] theorem clearMark_clearMark (h : Header) : h.clearMark.clearMark = h.clearMark := by
  have words : h.clearMark.clearMark.word = h.clearMark.word := by
    apply BitVec.eq_of_getLsbD_eq
    intro i _
    simp only [getLsbD_clearMark]
    cases h.word.getLsbD i <;> simp
  exact congrArg Header.mk words

@[simp] theorem clearMark_mark (h : Header) : h.mark.clearMark = h.clearMark := by
  have words : h.mark.clearMark.word = h.clearMark.word := by
    apply BitVec.eq_of_getLsbD_eq
    intro i _
    simp only [getLsbD_clearMark, getLsbD_mark]
    cases h.word.getLsbD i <;> simp
  exact congrArg Header.mk words

def Agrees (a b : Header) : Prop := ∀ i, 0 < i → a.word.getLsbD i = b.word.getLsbD i

theorem agrees_mark (h : Header) : h.mark.Agrees h := by
  intro i hi
  simp [getLsbD_mark, Nat.ne_of_gt hi]

theorem agrees_clearMark (h : Header) : h.clearMark.Agrees h := by
  intro i hi
  simp [getLsbD_clearMark, Nat.ne_of_gt hi]

theorem Agrees.kind {a b : Header} (h : a.Agrees b) : a.kind = b.kind :=
  kind_congr fun i hi _ => h i hi

theorem Agrees.secondary {a b : Header} (h : a.Agrees b) : a.secondary = b.secondary :=
  secondary_congr fun i hi _ => h i (by omega)

theorem Agrees.flag {a b : Header} (h : a.Agrees b) (f : Flag) : a.flag f = b.flag f :=
  flag_congr (h f.position (by cases f <;> decide))

theorem agrees_of_clearMark_eq {a b : Header} (e : a.clearMark = b.clearMark) : a.Agrees b := by
  intro i hi
  rw [← a.agrees_clearMark i hi, e, b.agrees_clearMark i hi]

theorem eq_of_clearMark_eq {a b : Header} (rest : a.clearMark = b.clearMark)
    (mark : a.isMarked = b.isMarked) : a = b := by
  have words : a.word = b.word := by
    apply BitVec.eq_of_getLsbD_eq
    intro i _
    rcases Nat.eq_zero_or_pos i with rfl | hi
    · rwa [isMarked_eq, isMarked_eq] at mark
    · exact agrees_of_clearMark_eq rest i hi
  exact congrArg Header.mk words

theorem getLsbD_setFlag (h : Header) (f : Flag) (value : Bool) {i : Nat} (ne : i ≠ f.position) :
    (h.setFlag f value).word.getLsbD i = h.word.getLsbD i := by
  have mask : f.mask.getLsbD i = false := by
    simp only [Flag.mask, BitVec.getLsbD_shiftLeft, BitVec.getLsbD_one]
    by_cases hi : i < f.position
    · simp [hi]
    · have : i - f.position ≠ 0 := by omega
      simp [this]
  rw [setFlag]
  split
  · rw [BitVec.getLsbD_or, mask, Bool.or_false]
  · rw [BitVec.getLsbD_and, BitVec.getLsbD_not, mask]
    by_cases hi : i < 32
    · simp [hi]
    · simp [BitVec.getLsbD_of_ge h.word i (Nat.not_lt.mp hi)]

theorem flag_setFlag (h : Header) (f : Flag) (value : Bool) : (h.setFlag f value).flag f = value := by
  have bound : f.position < 32 := by cases f <;> decide
  have mask : f.mask.getLsbD f.position = true := by simp [Flag.mask, bound]
  rw [flag_eq, setFlag]
  cases value <;> simp [mask, bound]

theorem getLsbD_idMask (i : Nat) : idMask.getLsbD i = decide (i < 7) := by
  by_cases bound : i < 32
  · have all : ∀ j < 32, idMask.getLsbD j = decide (j < 7) := by decide
    exact all i bound
  · rw [BitVec.getLsbD_of_ge _ i (by omega)]
    simp
    omega

theorem getLsbD_withSecondary (h : Header) (sec : UInt8) {i : Nat} (outside : i < 8 ∨ 15 ≤ i) :
    (h.withSecondary sec).word.getLsbD i = h.word.getLsbD i := by
  by_cases bound : i < 32
  · simp only [withSecondary, BitVec.getLsbD_or, BitVec.getLsbD_and, BitVec.getLsbD_not,
      BitVec.getLsbD_shiftLeft, getLsbD_idMask]
    rcases outside with low | high
    · simp [low, bound]
    · have above : ¬i - 8 < 7 := by omega
      simp [above, bound]
  · rw [BitVec.getLsbD_of_ge _ i (by omega), BitVec.getLsbD_of_ge _ i (by omega)]

theorem secondary_withSecondary (h : Header) (sec : UInt8) :
    (h.withSecondary sec).secondary = sec.toBitVec.setWidth 7 := by
  apply BitVec.eq_of_getLsbD_eq
  intro i hi
  have bound : 8 + i < 32 := by omega
  have wide : i < 32 := by omega
  have above : ¬8 + i < 8 := by omega
  simp only [secondary, withSecondary, BitVec.getLsbD_setWidth, BitVec.getLsbD_ushiftRight,
    BitVec.getLsbD_or, BitVec.getLsbD_and, BitVec.getLsbD_not, BitVec.getLsbD_shiftLeft,
    getLsbD_idMask]
  simp [hi, bound, wide, above]

theorem kind_setFlag (h : Header) (f : Flag) (value : Bool) :
    (h.setFlag f value).kind = h.kind := by
  apply kind_congr
  intro i _ hi
  have := f.le_position
  exact h.getLsbD_setFlag f value (by omega)

theorem kind_withSecondary (h : Header) (sec : UInt8) : (h.withSecondary sec).kind = h.kind := by
  apply kind_congr
  intro i _ hi
  have bound : i < 32 := Nat.lt_trans hi (by decide)
  simp [withSecondary, hi, bound]

@[ext]
structure Record where
  kind : Kind
  secondary : Nat
  isMarked : Bool
  flagOne : Bool
  flagTwo : Bool
deriving DecidableEq, Repr

def record (h : Header) : Record :=
  ⟨h.kind, h.secondary.toNat, h.isMarked, h.flag .one, h.flag .two⟩

inductive Update where
  | secondary (sec : UInt8)
  | flag (f : Flag) (value : Bool)
  | mark
  | clearMark
deriving DecidableEq, Repr

def update (h : Header) : Update → Header
  | .secondary sec => h.withSecondary sec
  | .flag f value => h.setFlag f value
  | .mark => h.mark
  | .clearMark => h.clearMark

namespace Record

def ofKind (k : Kind) : Record := ⟨k, 0, false, false, false⟩

def update (x : Record) : Update → Record
  | .secondary sec => { x with secondary := sec.toNat % 128 }
  | .flag .one value => { x with flagOne := value }
  | .flag .two value => { x with flagTwo := value }
  | .mark => { x with isMarked := true }
  | .clearMark => { x with isMarked := false }

end Record

def build (k : Kind) (us : List Update) : Header := us.foldl update (ofKind k)

theorem getLsbD_ofKind (k : Kind) (i : Nat) :
    (ofKind k).word.getLsbD i = (decide (1 ≤ i) && k.id.getLsbD (i - 1)) := by
  simp only [ofKind, BitVec.getLsbD_shiftLeft, BitVec.getLsbD_setWidth]
  rcases Nat.eq_zero_or_pos i with rfl | positive
  · rfl
  · by_cases bound : i < 32
    · have shifted : i - 1 < 32 := by omega
      have above : ¬i < 1 := by omega
      simp [bound, shifted, above, Nat.succ_le_of_lt positive]
    · simp [bound, BitVec.getLsbD_of_ge k.id (i - 1) (by omega)]

theorem getLsbD_ofKind_of_lt (k : Kind) {i : Nat} (above : 7 < i) :
    (ofKind k).word.getLsbD i = false := by
  rw [getLsbD_ofKind, BitVec.getLsbD_of_ge k.id (i - 1) (by omega), Bool.and_false]

theorem record_ofKind (k : Kind) : (ofKind k).record = .ofKind k := by
  have kind : (ofKind k).kind.id = k.id := by
    apply BitVec.eq_of_getLsbD_eq
    intro i hi
    simp [Header.kind, getLsbD_ofKind, hi]
  have secondary : (ofKind k).secondary = 0#7 := by
    apply BitVec.eq_of_getLsbD_eq
    intro i _
    simp [Header.secondary, getLsbD_ofKind_of_lt k (show 7 < 8 + i by omega)]
  have isMarked : (ofKind k).isMarked = false := by rw [isMarked_eq, getLsbD_ofKind]; rfl
  have flag (f : Flag) : (ofKind k).flag f = false := by
    rw [flag_eq]
    exact getLsbD_ofKind_of_lt k (by cases f <;> decide)
  apply Record.ext
  case kind => exact congrArg Kind.mk kind
  case secondary => exact congrArg BitVec.toNat secondary
  case isMarked => exact isMarked
  case flagOne => exact flag .one
  case flagTwo => exact flag .two

theorem record_withSecondary (h : Header) (sec : UInt8) :
    (h.withSecondary sec).record = h.record.update (.secondary sec) := by
  apply Record.ext
  case kind => exact h.kind_withSecondary sec
  case secondary => simp [record, secondary_withSecondary, Record.update]
  case isMarked =>
    simp only [record, Record.update, isMarked_eq]
    exact h.getLsbD_withSecondary sec (.inl (by decide))
  case flagOne => exact flag_congr (h.getLsbD_withSecondary sec (.inr (by decide)))
  case flagTwo => exact flag_congr (h.getLsbD_withSecondary sec (.inr (by decide)))

theorem flag_setFlag_of_ne (h : Header) {f g : Flag} (value : Bool) (ne : f ≠ g) :
    (h.setFlag f value).flag g = h.flag g := by
  apply flag_congr
  apply getLsbD_setFlag
  exact fun same => ne (Flag.position_inj same.symm)

theorem record_setFlag (h : Header) (f : Flag) (value : Bool) :
    (h.setFlag f value).record = h.record.update (.flag f value) := by
  have kind : (h.setFlag f value).kind = h.kind := h.kind_setFlag f value
  have secondary : (h.setFlag f value).secondary = h.secondary :=
    secondary_congr fun i _ below =>
      h.getLsbD_setFlag f value (Nat.ne_of_lt (Nat.lt_of_lt_of_le below f.le_position))
  have isMarked : (h.setFlag f value).isMarked = h.isMarked := by
    rw [isMarked_eq, isMarked_eq]
    exact h.getLsbD_setFlag f value (by cases f <;> decide)
  cases f with
  | one =>
    have other : (h.setFlag .one value).flag .two = h.flag .two :=
      h.flag_setFlag_of_ne value (by decide)
    simp [record, kind, secondary, isMarked, flag_setFlag, other, Record.update]
  | two =>
    have other : (h.setFlag .two value).flag .one = h.flag .one :=
      h.flag_setFlag_of_ne value (by decide)
    simp [record, kind, secondary, isMarked, flag_setFlag, other, Record.update]

theorem Agrees.record {a b : Header} (h : a.Agrees b) :
    a.record = { b.record with isMarked := a.isMarked } := by
  simp only [Header.record, h.kind, h.secondary, h.flag]

theorem record_update (h : Header) (u : Update) : (h.update u).record = h.record.update u := by
  cases u with
  | secondary sec => exact h.record_withSecondary sec
  | flag f value => exact h.record_setFlag f value
  | mark => exact h.agrees_mark.record.trans (by rw [isMarked_mark]; rfl)
  | clearMark => exact h.agrees_clearMark.record.trans (by rw [isMarked_clearMark]; rfl)

theorem record_foldl (h : Header) (us : List Update) :
    (us.foldl update h).record = us.foldl Record.update h.record := by
  induction us generalizing h with
  | nil => rfl
  | cons u us ih => rw [List.foldl_cons, ih, record_update, List.foldl_cons]

theorem record_build (k : Kind) (us : List Update) :
    (build k us).record = us.foldl Record.update (.ofKind k) := by
  rw [build, record_foldl, record_ofKind]

theorem getLsbD_update_of_le (h : Header) (u : Update) {i : Nat} (above : 17 ≤ i) :
    (h.update u).word.getLsbD i = h.word.getLsbD i := by
  cases u with
  | secondary sec => exact h.getLsbD_withSecondary sec (.inr (by omega))
  | flag f value =>
    apply h.getLsbD_setFlag
    cases f <;> simp only [Flag.position] <;> omega
  | mark => exact h.agrees_mark i (by omega)
  | clearMark => exact h.agrees_clearMark i (by omega)

theorem getLsbD_build_of_le (k : Kind) (us : List Update) {i : Nat} (above : 17 ≤ i) :
    (build k us).word.getLsbD i = false := by
  have kept (h : Header) : (us.foldl update h).word.getLsbD i = h.word.getLsbD i := by
    induction us generalizing h with
    | nil => rfl
    | cons u us ih => rw [List.foldl_cons, ih, getLsbD_update_of_le h u above]
  rw [build, kept, getLsbD_ofKind_of_lt k (by omega)]

theorem getLsbD_eq_of_record_eq {a b : Header} (same : a.record = b.record) {i : Nat}
    (below : i < 17) : a.word.getLsbD i = b.word.getLsbD i := by
  obtain ⟨kind, secondary, isMarked, one, two⟩ := Record.mk.inj same
  rcases (by omega : i = 0 ∨ 1 ≤ i ∧ i < 8 ∨ 8 ≤ i ∧ i < 15 ∨ i = 15 ∨ i = 16) with
    rfl | ⟨low, high⟩ | ⟨low, high⟩ | rfl | rfl
  · rwa [isMarked_eq, isMarked_eq] at isMarked
  · have bit := congrArg (fun k => k.id.getLsbD (i - 1)) kind
    have place : 1 + (i - 1) = i := by omega
    have within : i - 1 < 7 := by omega
    simpa [Header.kind, place, within] using bit
  · have bit := congrArg (fun s : BitVec 7 => s.getLsbD (i - 8)) (BitVec.eq_of_toNat_eq secondary)
    have place : 8 + (i - 8) = i := by omega
    have within : i - 8 < 7 := by omega
    simpa [Header.secondary, place, within] using bit
  · rwa [flag_eq, flag_eq] at one
  · rwa [flag_eq, flag_eq] at two

/-- A header is its record: whatever is written to it in whatever order, each field reads as what
was last written to it, nothing is written above the fields, and no word has two records. -/
theorem header_reads_as_record (k : Kind) (us : List Update) :
    (build k us).record = us.foldl Record.update (.ofKind k) ∧
    (∀ i, 17 ≤ i → (build k us).word.getLsbD i = false) ∧
    ∀ l vs, (build k us).word = (build l vs).word ↔ (build k us).record = (build l vs).record := by
  refine ⟨record_build k us, fun i above => getLsbD_build_of_le k us above,
    fun l vs => ⟨fun same => ?_, fun same => ?_⟩⟩
  · exact congrArg (fun w => Header.record ⟨w⟩) same
  · apply BitVec.eq_of_getLsbD_eq
    intro i _
    rcases Nat.lt_or_ge i 17 with below | above
    · exact getLsbD_eq_of_record_eq same below
    · rw [getLsbD_build_of_le k us above, getLsbD_build_of_le l vs above]

end Header

end MarkSweep

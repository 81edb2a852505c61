import Entrypoint.Coercion
import Mathlib.Algebra.Order.Ring.Int
import Mathlib.Data.List.Basic

/-! Decimal numerals of an integer type. Digits are read one after another within the bounds of the
type, and still an integer is read off exactly the numerals whose value as a whole is within them: a
value on the way is never farther from zero than the last one. -/

namespace Entrypoint

namespace IntegerKind

variable {kind : IntegerKind} {value : Int}

/-- The values of a type. Types of the size of a pointer have 64 bits. -/
def InRange : IntegerKind → Int → Prop
  | i8, value => -2 ^ 7 ≤ value ∧ value < 2 ^ 7
  | i16, value => -2 ^ 15 ≤ value ∧ value < 2 ^ 15
  | i32, value => -2 ^ 31 ≤ value ∧ value < 2 ^ 31
  | i64, value | isize, value => -2 ^ 63 ≤ value ∧ value < 2 ^ 63
  | i128, value => -2 ^ 127 ≤ value ∧ value < 2 ^ 127
  | u8, value => 0 ≤ value ∧ value < 2 ^ 8
  | u16, value => 0 ≤ value ∧ value < 2 ^ 16
  | u32, value => 0 ≤ value ∧ value < 2 ^ 32
  | u64, value | usize, value => 0 ≤ value ∧ value < 2 ^ 64
  | u128, value => 0 ≤ value ∧ value < 2 ^ 128

theorem holds_iff : kind.holds value = true ↔ kind.least ≤ value ∧ value ≤ kind.greatest := by
  rw [holds, Bool.and_eq_true, decide_eq_true_iff, decide_eq_true_iff]

theorem holds_iff_inRange : kind.holds value = true ↔ kind.InRange value := by
  rw [holds_iff]
  cases kind <;> exact and_congr Iff.rfl Int.le_sub_one_iff

theorem holds_zero (kind : IntegerKind) : kind.holds 0 = true := by
  cases kind <;> decide

theorem InRange.isSigned (h : kind.InRange value) (hneg : value < 0) : kind.isSigned = true := by
  cases kind with
  | i8 | i16 | i32 | i64 | i128 | isize => rfl
  | u8 | u16 | u32 | u64 | u128 | usize => exact absurd h.1 (Int.not_le.mpr hneg)

/-- A type is signed if and only if it has negative values. -/
theorem isSigned_iff : kind.isSigned = true ↔ ∃ value < 0, kind.InRange value := by
  refine ⟨fun h => ⟨-1, by decide, holds_iff_inRange.mp ?_⟩, fun ⟨_, hneg, h⟩ => h.isSigned hneg⟩
  cases kind with
  | i8 | i16 | i32 | i64 | i128 | isize => decide
  | u8 | u16 | u32 | u64 | u128 | usize => cases h

end IntegerKind

namespace Coercion

open IntegerKind (holds_iff holds_iff_inRange isSigned_iff)

variable {kind : IntegerKind} {negative : Bool} {magnitude more : Nat} {value : Int} {c : Char}
  {digits text : List Char}

/-- Digits, one at least. -/
structure IsDigits (text : List Char) : Prop where
  ne_nil : text ≠ []
  isDigit : ∀ c ∈ text, c.isDigit = true

/-- The number of a magnitude on one side of zero. -/
def onSide (negative : Bool) (magnitude : Nat) : Int := if negative then -magnitude else magnitude

/-- A numeral and its value: digits behind an optional sign, where a minus sign may stand only before
the digits of a type with negative values. -/
inductive Denotes (kind : IntegerKind) : List Char → Int → Prop
  | plain {digits : List Char} (h : IsDigits digits) :
    Denotes kind digits (Nat.ofDigitChars 10 digits 0)
  | plus {digits : List Char} (h : IsDigits digits) :
    Denotes kind ('+' :: digits) (Nat.ofDigitChars 10 digits 0)
  | minus {digits : List Char} (h : IsDigits digits) (hsigned : ∃ value < 0, kind.InRange value) :
    Denotes kind ('-' :: digits) (-(Nat.ofDigitChars 10 digits 0 : Int))

/-! ### Digits -/

/-- What is nearer to zero on the same side stays within the type. -/
theorem holds_of_le (h : kind.holds (onSide negative more) = true) (hle : magnitude ≤ more) :
    kind.holds (onSide negative magnitude) = true := by
  have hzero := holds_iff.mp kind.holds_zero
  rw [holds_iff] at h ⊢
  cases negative <;> simp only [onSide, Bool.false_eq_true, if_true, if_false] at h ⊢ <;> omega

/-- **One more digit.** The step gives the value with the digit behind it, if that is within the
type. -/
theorem extend?_eq_some_iff : extend? kind negative (onSide negative magnitude) c = some value ↔
    c.isDigit = true ∧ value = onSide negative (10 * magnitude + (c.toNat - '0'.toNat)) ∧
      kind.holds value = true := by
  have hshifted : onSide negative magnitude * 10 = onSide negative (10 * magnitude) := by
    cases negative <;> simp only [onSide, Bool.false_eq_true, if_true, if_false] <;> omega
  have hnext : ∀ digit : Nat, (if negative then onSide negative (10 * magnitude) - digit
      else onSide negative (10 * magnitude) + digit) = onSide negative (10 * magnitude + digit) := by
    intro digit
    cases negative <;> simp only [onSide, Bool.false_eq_true, if_true, if_false] <;> omega
  simp only [extend?, hshifted, hnext, Option.ite_none_right_eq_some, Bool.and_eq_true,
    Option.some.injEq]
  constructor
  · rintro ⟨⟨⟨hdigit, _⟩, hholds⟩, rfl⟩
    exact ⟨hdigit, rfl, hholds⟩
  · rintro ⟨hdigit, rfl, hholds⟩
    exact ⟨⟨⟨hdigit, holds_of_le hholds (Nat.le_add_right _ _)⟩, hholds⟩, rfl⟩

theorem le_ofDigitChars (magnitude : Nat) (digits : List Char) :
    magnitude ≤ Nat.ofDigitChars 10 digits magnitude := by
  induction digits generalizing magnitude with
  | nil => exact Nat.le_refl _
  | cons c digits ih =>
    rw [Nat.ofDigitChars_cons]
    exact Nat.le_trans (by omega) (ih _)

/-- **A run of digits.** Behind a value, digits are read exactly if the value of all together is within
the type. -/
theorem foldlM_extend?_eq_some_iff (h : kind.holds (onSide negative magnitude) = true) :
    digits.foldlM (extend? kind negative) (onSide negative magnitude) = some value ↔
      (∀ c ∈ digits, c.isDigit = true) ∧
        value = onSide negative (Nat.ofDigitChars 10 digits magnitude) ∧ kind.holds value = true := by
  induction digits generalizing magnitude with
  | nil =>
    rw [List.foldlM_nil, Nat.ofDigitChars_nil]
    simp only [Option.pure_def, Option.some.injEq, List.not_mem_nil, false_implies, implies_true,
      true_and]
    exact ⟨fun heq => heq ▸ ⟨rfl, h⟩, fun heq => heq.1.symm⟩
  | cons c digits ih =>
    rw [List.foldlM_cons, Option.bind_eq_bind, Option.bind_eq_some_iff, Nat.ofDigitChars_cons,
      List.forall_mem_cons]
    constructor
    · rintro ⟨next, hnext, hrest⟩
      obtain ⟨hc, rfl, hholds⟩ := extend?_eq_some_iff.mp hnext
      obtain ⟨hdigits, hvalue⟩ := (ih hholds).mp hrest
      exact ⟨⟨hc, hdigits⟩, hvalue⟩
    · rintro ⟨⟨hc, hdigits⟩, rfl, hholds⟩
      -- The value behind the first digit is nearer to zero than the last one.
      have hnext := holds_of_le hholds (le_ofDigitChars _ digits)
      exact ⟨_, extend?_eq_some_iff.mpr ⟨hc, rfl, hnext⟩, (ih hnext).mpr ⟨hdigits, rfl, hholds⟩⟩

theorem digits?_eq_some_iff : digits? kind negative digits = some value ↔
    IsDigits digits ∧ value = onSide negative (Nat.ofDigitChars 10 digits 0) ∧
      kind.holds value = true := by
  have hzero : onSide negative 0 = 0 := by cases negative <;> rfl
  cases digits with
  | nil => exact iff_of_false nofun fun h => h.1.ne_nil rfl
  | cons c digits =>
    have hstart : kind.holds (onSide negative 0) = true := hzero ▸ kind.holds_zero
    rw [digits?, ← hzero, foldlM_extend?_eq_some_iff hstart]
    · exact and_congr_left' ⟨fun h => ⟨List.cons_ne_nil _ _, h⟩, fun h => h.isDigit⟩
    · exact List.cons_ne_nil _ _

/-! ### Numerals -/

theorem IsDigits.head_ne (h : IsDigits (c :: digits)) : c ≠ '+' ∧ c ≠ '-' := by
  have hdigit := h.isDigit c List.mem_cons_self
  constructor <;> rintro rfl <;> exact absurd hdigit (by decide)

theorem decimal?_eq_some_iff : decimal? kind text = some value ↔
    Denotes kind text value ∧ kind.holds value = true := by
  constructor
  · intro h
    unfold decimal? at h
    split at h
    · obtain ⟨hdigits, rfl, hholds⟩ := digits?_eq_some_iff.mp h
      exact ⟨.plus hdigits, hholds⟩
    · obtain ⟨hsigned, h⟩ := Option.ite_none_right_eq_some.mp h
      obtain ⟨hdigits, rfl, hholds⟩ := digits?_eq_some_iff.mp h
      exact ⟨.minus hdigits (isSigned_iff.mp hsigned), hholds⟩
    · obtain ⟨hdigits, rfl, hholds⟩ := digits?_eq_some_iff.mp h
      exact ⟨.plain hdigits, hholds⟩
  · rintro ⟨hdenotes, hholds⟩
    cases hdenotes with
    | plain hdigits =>
      unfold decimal?
      split
      · exact absurd rfl hdigits.head_ne.1
      · exact absurd rfl hdigits.head_ne.2
      · exact digits?_eq_some_iff.mpr ⟨hdigits, rfl, hholds⟩
    | plus hdigits => exact digits?_eq_some_iff.mpr ⟨hdigits, rfl, hholds⟩
    | minus hdigits hsigned =>
      rw [decimal?, if_pos (isSigned_iff.mpr hsigned)]
      exact digits?_eq_some_iff.mpr ⟨hdigits, rfl, hholds⟩

/-- A value is written as a numeral of it, with a minus sign below zero. -/
theorem denotes_toString (h : kind.InRange value) :
    Denotes kind (toString value).toList value := by
  have hdigits : ∀ n : Nat, IsDigits (Nat.toDigits 10 n) := fun n =>
    ⟨Nat.toDigits_ne_nil, fun _ hc => Nat.isDigit_of_mem_toDigits (by decide) (by decide) hc⟩
  have hvalue : ∀ n : Nat, Nat.ofDigitChars 10 (Nat.toDigits 10 n) 0 = n :=
    fun _ => Nat.ofDigitChars_ten_toDigits
  rw [Int.toString_eq_repr]
  cases value with
  | ofNat n =>
    have hplain : Denotes kind _ _ := .plain (hdigits n)
    rw [hvalue] at hplain
    rwa [Int.repr, Nat.toList_repr]
  | negSucc n =>
    have hminus := Denotes.minus (hdigits (n + 1)) ⟨_, Int.negSucc_lt_zero n, h⟩
    rw [hvalue] at hminus
    rwa [Int.repr, String.toList_append, Nat.toList_repr]

/-- **Reading integers.** A text is read as a value exactly if it is a numeral of the value and the
value is in the range of the type; every other text is refused as it stands, with the name of the
type. So each value of the type is read off its decimal text. -/
theorem integer_exact (kind : IntegerKind) (raw : String) :
    (∀ value, integer kind raw = .ok value ↔
      Denotes kind raw.toList value ∧ kind.InRange value) ∧
    (∀ e, integer kind raw = .error e ↔
      (∀ value, Denotes kind raw.toList value → ¬kind.InRange value) ∧
        e = ⟨raw, kind.name⟩) ∧
    ∀ value, kind.InRange value → integer kind (toString value) = .ok value := by
  have hread : ∀ (text : String) (value : Int), decimal? kind text.toList = some value ↔
      Denotes kind text.toList value ∧ kind.InRange value :=
    fun text value => decimal?_eq_some_iff.trans (and_congr_right' holds_iff_inRange)
  have hok : ∀ (text : String) (value : Int), integer kind text = .ok value ↔
      Denotes kind text.toList value ∧ kind.InRange value := fun text value => by
    rw [← hread, integer]
    cases decimal? kind text.toList <;> simp
  refine ⟨hok raw, fun e => ?_, fun value h => ?_⟩
  · have hnone : decimal? kind raw.toList = none ↔
        ∀ value, Denotes kind raw.toList value → ¬kind.InRange value := by
      rw [Option.eq_none_iff_forall_ne_some]
      exact forall_congr' fun value => (not_congr (hread raw value)).trans not_and
    rw [← hnone, integer]
    cases decimal? kind raw.toList <;> simp [eq_comm]
  · exact (hok _ value).mpr ⟨denotes_toString h, h⟩

/-- Zeros before the digits make no difference, and the least value has one more digit to it than
what can be written without the sign. -/
example : integer .i8 "-000128" = .ok (-128) ∧ integer .i8 "128" = .error ⟨"128", "i8"⟩ ∧
    integer .u8 "-0" = .error ⟨"-0", "u8"⟩ := by decide

end Coercion

end Entrypoint

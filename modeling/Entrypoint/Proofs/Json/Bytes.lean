import Entrypoint.Json.Input

/-! The bytes of a text. Every character has one to four bytes: the first tells how many follow and
has the leading bits of the code, and each of the others has six bits more. Read in turn they are
the characters of the text again, and none of them is stray. -/

namespace Entrypoint.Symbol

variable {n code count : Nat} {rest : List UInt8}

/-! ### One byte -/

theorem lead?_one : ∀ n < 0x80, lead? (UInt8.ofNat n) = some (0, n, 0) := by decide

theorem lead?_two : ∀ n < 0x20, lead? (UInt8.ofNat (n + 0xc0)) = some (1, n, 0x80) := by
  decide

theorem lead?_three : ∀ n < 0x10, lead? (UInt8.ofNat (n + 0xe0)) = some (2, n, 0x800) := by
  decide

theorem lead?_four : ∀ n < 0x08, lead? (UInt8.ofNat (n + 0xf0)) = some (3, n, 0x10000) := by
  decide

theorem continuation : ∀ n < 0x40, UInt8.ofNat (n + 0x80) &&& 0xc0 = 0x80 ∧
    (UInt8.ofNat (n + 0x80) &&& 0x3f).toNat = n := by
  decide

/-- A byte that continues a character appends its six bits. -/
theorem continued?_cons (h : n < 0x40) :
    continued? code (count + 1) (UInt8.ofNat (n + 0x80) :: rest) =
      continued? (code * 0x40 + n) count rest := by
  obtain ⟨hmark, hbits⟩ := continuation n h
  rw [continued?, if_pos hmark, hbits]

/-! ### Characters -/

/-- A first byte and the continuation that it calls for make a character. -/
theorem charAt?_of_lead {b : UInt8} {bits least : Nat} {bytes : List UInt8} {c : Char}
    (hlead : lead? b = some (count, bits, least))
    (hcontinued : continued? bits count bytes = some (c.val.toNat, rest))
    (hleast : least ≤ c.val.toNat) : charAt? (b :: bytes) = some (c, rest) := by
  have hvalid : c.val.toNat.isValidChar := c.valid
  have hchar : Char.ofNat c.val.toNat = c := Char.ofNat_toNat c
  simp only [charAt?, hlead, Option.bind_some, hcontinued, hleast, hvalid, and_self, if_true, hchar]

/-- The bytes of a character are read as it. -/
theorem charAt?_utf8EncodeChar (c : Char) (rest : List UInt8) :
    charAt? (String.utf8EncodeChar c ++ rest) = some (c, rest) := by
  have htop : c.val.toNat < 0x110000 := (show c.val.toNat.isValidChar from c.valid).elim
    (by omega) And.right
  -- A character has as many bytes as its code needs.
  fun_cases String.utf8EncodeChar c with simp only [List.cons_append, List.nil_append]
  | case1 =>
    exact charAt?_of_lead (lead?_one _ (by omega)) rfl (Nat.zero_le _)
  | case2 =>
    refine charAt?_of_lead (lead?_two _ (Nat.mod_lt _ (by decide))) ?_ (by omega)
    rw [continued?_cons (Nat.mod_lt _ (by decide)), continued?]
    congr 2
    omega
  | case3 =>
    refine charAt?_of_lead (lead?_three _ (Nat.mod_lt _ (by decide))) ?_ (by omega)
    rw [continued?_cons (Nat.mod_lt _ (by decide)), continued?_cons (Nat.mod_lt _ (by decide)),
      continued?]
    congr 2
    omega
  | case4 =>
    refine charAt?_of_lead (lead?_four _ (Nat.mod_lt _ (by decide))) ?_ (by omega)
    rw [continued?_cons (Nat.mod_lt _ (by decide)), continued?_cons (Nat.mod_lt _ (by decide)),
      continued?_cons (Nat.mod_lt _ (by decide)), continued?]
    congr 2
    omega

/-! ### Texts -/

theorem ofBytesFrom_utf8EncodeChar {fuel : Nat} {chars : List Char}
    (hfuel : (chars.flatMap String.utf8EncodeChar).length ≤ fuel) :
    ofBytesFrom fuel (chars.flatMap String.utf8EncodeChar) = chars.map char := by
  induction chars generalizing fuel with
  | nil => cases fuel <;> rfl
  | cons c chars ih =>
    obtain ⟨b, bytes, hbytes⟩ := List.exists_cons_of_ne_nil (String.utf8EncodeChar_ne_nil (c := c))
    have hread := charAt?_utf8EncodeChar c (chars.flatMap String.utf8EncodeChar)
    rw [List.flatMap_cons, hbytes, List.cons_append] at hfuel ⊢
    rw [hbytes, List.cons_append] at hread
    cases fuel with
    | zero => simp at hfuel
    | succ fuel =>
      rw [ofBytesFrom, hread]
      exact congrArg (char c :: ·) (ih (Nat.le_trans (by simp) (Nat.le_of_succ_le_succ hfuel)))

/-- The bytes of a text are read as its characters. -/
theorem ofBytes_toUTF8 (text : String) : ofBytes text.toUTF8.data.toList = ofText text := by
  have hbytes : text.toUTF8.data.toList = text.toList.flatMap String.utf8EncodeChar := by
    rw [String.toUTF8_eq_toByteArray, ← String.utf8Encode_toList, List.utf8Encode,
      List.toList_data_toByteArray]
  rw [ofBytes, hbytes]
  exact ofBytesFrom_utf8EncodeChar (Nat.le_refl _)

end Entrypoint.Symbol

import Entrypoint.Proofs.Source.RowLexing
import Mathlib.Algebra.Ring.Nat

/-! Literals come back from their text. A text between quotes is read up to its closing quote, since
what could end it or begin an escape in it is escaped, and a number up to what follows it. -/

namespace Entrypoint

namespace Text.Quoted

variable {n : Nat}

theorem hexDigit_spec (h : n < 16) :
    hexValue? (hexDigit n) = some n ∧ hexDigit n ≠ '_' ∧ hexDigit n ≠ '\x7d' := by
  have hall : (List.range 16).all (fun n => decide (hexValue? (hexDigit n) = some n ∧
      hexDigit n ≠ '_' ∧ hexDigit n ≠ '\x7d')) = true := by decide
  exact of_decide_eq_true (List.all_eq_true.mp hall n (List.mem_range.mpr h))

theorem hexDigits_ne_nil (n : Nat) : hexDigits n ≠ [] := by
  rw [hexDigits]
  split <;> simp

theorem length_hexDigits {k : Nat} (h : n < 16 ^ (k + 1)) : (hexDigits n).length ≤ k + 1 := by
  induction k generalizing n with
  | zero =>
    rw [hexDigits, dif_pos (by omega)]
    simp
  | succ k ih =>
    rw [hexDigits]
    split
    · simp
    · have hdiv : n / 16 < 16 ^ (k + 1) := by
        rw [Nat.div_lt_iff_lt_mul (by decide)]
        rwa [Nat.pow_succ] at h
      simpa using ih hdiv

end Text.Quoted

namespace Lexeme

open Text.Quoted

variable {rest : List Char} {count value n : Nat} {c : Char}

/-! ### Quoted text -/

theorem code?_hexDigit (h : n < 16) (hcount : count ≠ 6) :
    code? count value (hexDigit n :: rest) = code? (count + 1) (value * 16 + n) rest := by
  obtain ⟨hvalue, hbar, hbrace⟩ := hexDigit_spec h
  rw [code?]
  · simp [hvalue, hcount]
  · exact fun heq => absurd heq hbar
  · exact fun heq => absurd heq hbrace

/-- The digits of a number are read as its value behind what was read before. -/
theorem code?_hexDigits (h : count + (hexDigits n).length ≤ 6) :
    code? count value (hexDigits n ++ rest) =
      code? (count + (hexDigits n).length) (value * 16 ^ (hexDigits n).length + n) rest := by
  induction n using Nat.strongRecOn generalizing rest with
  | ind n ih =>
    rw [hexDigits] at h ⊢
    split at h
    · rename_i hn
      rw [dif_pos hn]
      simpa using code?_hexDigit hn (by simp at h; omega)
    · rename_i hn
      rw [dif_neg hn]
      simp only [List.length_append, List.length_singleton] at h ⊢
      have hvalue : (value * 16 ^ (hexDigits (n / 16)).length + n / 16) * 16 + n % 16 =
          value * 16 ^ ((hexDigits (n / 16)).length + 1) + n := by
        rw [Nat.pow_succ, ← Nat.mul_assoc]
        omega
      rw [List.append_assoc, ih (n / 16) (by omega) (by omega), List.singleton_append,
        code?_hexDigit (Nat.mod_lt _ (by decide)) (by omega), hvalue, Nat.add_assoc]

/-- The code of a character is read up to its closing brace. -/
theorem code?_toNat (c : Char) :
    code? 0 0 (hexDigits c.toNat ++ '\x7d' :: rest) = some (c.toNat, rest) := by
  have hvalid : c.toNat.isValidChar := c.valid
  have hbound : c.toNat < 16 ^ 6 := by
    rcases hvalid with h | ⟨-, h⟩ <;> omega
  have hlength := length_hexDigits hbound
  have hpos := List.length_pos_iff.mpr (hexDigits_ne_nil c.toNat)
  rw [code?_hexDigits (by omega), code?]
  simp [hvalid, Nat.ne_of_gt hpos]

theorem afterQuoted?_byCode (c : Char) (fuel : Nat) :
    afterQuoted? .text (fuel + 1) (byCode c ++ rest) = afterQuoted? .text fuel rest := by
  have hescape : afterEscape? .text ('u' :: '\x7b' :: (hexDigits c.toNat ++ '\x7d' :: rest)) =
      some rest := by
    simp [afterEscape?, code?_toNat]
  have htext : byCode c ++ rest =
      '\\' :: 'u' :: '\x7b' :: (hexDigits c.toNat ++ '\x7d' :: rest) := by
    simp [byCode]
  rw [htext, afterQuoted?, hescape, Option.bind_some] <;> simp

/-- What stands for a character is read as one. -/
theorem afterQuoted?_encodeChar (c : Char) (next : Option Char) (fuel : Nat) :
    afterQuoted? .text (fuel + 1) (encodeChar c next ++ rest) = afterQuoted? .text fuel rest := by
  unfold encodeChar
  split
  · split
    · split <;> rfl
    · rfl
  · split
    · rfl
    · split
      · rfl
      · split
        · rfl
        · rename_i hreturn hfeed
          split
          · rename_i h
            rcases h with rfl | rfl <;> rfl
          · rename_i hquote
            rw [not_or] at hquote
            split
            · exact afterQuoted?_byCode c fuel
            · split
              · rw [List.singleton_append, afterQuoted?]
                · rfl
                all_goals simp_all
              · exact afterQuoted?_byCode c fuel

theorem length_le_encode (text : List Char) : text.length ≤ (encode text).length := by
  induction text with
  | nil => exact Nat.le_refl 0
  | cons c text ih =>
    have hpos : 0 < (encodeChar c text.head?).length := by
      unfold encodeChar byCode
      repeat' split
      all_goals simp
    rw [encode, List.length_append, List.length_cons]
    omega

/-- A quoted text is read up to its closing quote. -/
theorem afterQuoted?_encode (text : List Char) {fuel : Nat} (h : text.length < fuel) :
    afterQuoted? .text fuel (encode text ++ '"' :: rest) = some rest := by
  induction text generalizing fuel with
  | nil =>
    obtain ⟨fuel, rfl⟩ := Nat.exists_eq_add_of_lt h
    rfl
  | cons c text ih =>
    obtain ⟨fuel, rfl⟩ : ∃ k, fuel = k + 1 := ⟨fuel - 1, by omega⟩
    rw [encode, List.append_assoc, afterQuoted?_encodeChar, ih (by simpa using h)]

/-! ### Literals -/

/-- No suffix begins where a token ends. -/
theorem EndsToken.afterSuffix (h : EndsToken rest) : afterSuffix rest = rest := by
  cases rest with
  | nil => rfl
  | cons c rest =>
    have hends : tokenEnds.all (fun d => !Text.isIdentStart d) = true := by decide
    have hc := List.all_eq_true.mp hends c (h c rfl)
    rw [Bool.not_eq_true'] at hc
    simp [Lexeme.afterSuffix, plainWord?, hc]

theorem isLiteral_literal (text : String) : IsLiteral (Text.Quoted.literal text) where
  head := ⟨'"', _, by rw [Text.Quoted.literal, String.toList_ofList]; rfl, by decide, by decide, rfl⟩
  after rest hrest := by
    have htext : (Text.Quoted.literal text).toList ++ rest =
        '"' :: (encode text.toList ++ '"' :: rest) := by
      simp [Text.Quoted.literal]
    have hlength := length_le_encode text.toList
    have hafter : afterString? ('"' :: (encode text.toList ++ '"' :: rest)) = some rest := by
      rw [afterString?, afterQuotedLiteral?, afterQuoted?_encode]
      simp only [List.length_append, List.length_cons]
      omega
    rw [htext, afterLiteral?, hafter, Option.map_some, hrest.afterSuffix]
    rfl

/-- The statuses of answers are numbers. -/
theorem isLiteral_status {status : String} (h : status ∈ ["200", "400", "500"]) :
    IsLiteral status := by
  simp only [List.mem_cons, List.not_mem_nil, or_false] at h
  constructor
  · rcases h with rfl | rfl | rfl <;> exact ⟨_, _, rfl, by decide, by decide, rfl⟩
  · intro rest hrest
    cases rest with
    | nil => rcases h with rfl | rfl | rfl <;> rfl
    | cons c rest =>
      have hc := hrest c rfl
      simp only [tokenEnds, List.mem_cons, List.not_mem_nil, or_false] at hc
      rcases h with rfl | rfl | rfl <;> rcases hc with rfl | rfl | rfl | rfl <;> rfl

end Lexeme

end Entrypoint

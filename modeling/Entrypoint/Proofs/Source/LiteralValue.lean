import Entrypoint.Proofs.Source.LiteralLexing
import Entrypoint.Source.Attribute

/-! Text literals denote what they quote. Each character comes back from what stands for it, whatever
follows: an escape by its letter or by its code, and the others as they are. -/

namespace Entrypoint

namespace Text.Quoted

variable {rest : List Char} {n value fuel : Nat}

theorem decodeCode_hexDigit (h : n < 16) :
    decodeCode value (hexDigit n :: rest) = decodeCode (value * 16 + n) rest := by
  obtain ⟨hvalue, hbar, hbrace⟩ := hexDigit_spec h
  rw [decodeCode]
  · rw [hvalue, Option.bind_some]
  · exact fun heq => absurd heq hbrace
  · exact fun heq => absurd heq hbar

/-- The digits of a number are taken in as its value behind what was taken in before. -/
theorem decodeCode_hexDigits : decodeCode value (hexDigits n ++ rest) =
    decodeCode (value * 16 ^ (hexDigits n).length + n) rest := by
  induction n using Nat.strongRecOn generalizing rest with
  | ind n ih =>
    rw [hexDigits]
    split
    · rename_i hn
      rw [List.singleton_append, decodeCode_hexDigit hn, List.length_singleton, Nat.pow_one]
    · have hvalue : (value * 16 ^ (hexDigits (n / 16)).length + n / 16) * 16 + n % 16 =
          value * 16 ^ ((hexDigits (n / 16)).length + 1) + n := by
        rw [Nat.pow_succ, ← Nat.mul_assoc]
        omega
      rw [List.append_assoc, ih (n / 16) (by omega), List.singleton_append,
        decodeCode_hexDigit (Nat.mod_lt _ (by decide)), hvalue, List.length_append,
        List.length_singleton]

theorem decodeFrom_byCode (c : Char) :
    decodeFrom (fuel + 1) (byCode c ++ rest) = c :: decodeFrom fuel rest := by
  have htext : byCode c ++ rest = '\\' :: 'u' :: '\x7b' :: (hexDigits c.toNat ++ '\x7d' :: rest) := by
    simp [byCode]
  have hcode : decodeCode 0 (hexDigits c.toNat ++ '\x7d' :: rest) = some (c, rest) := by
    rw [decodeCode_hexDigits, Nat.zero_mul, Nat.zero_add, decodeCode, Char.ofNat_toNat]
  rw [htext, decodeFrom]
  simp [hcode]

/-- A character comes back from what stands for it. -/
theorem decodeFrom_encodeChar (c : Char) (next : Option Char) :
    decodeFrom (fuel + 1) (encodeChar c next ++ rest) = c :: decodeFrom fuel rest := by
  unfold encodeChar
  split_ifs with hnull htab hreturn hfeed hquoted hextends hprints
  · subst hnull
    split
    · split <;> rfl
    · rfl
  · rw [htab]; rfl
  · rw [hreturn]; rfl
  · rw [hfeed]; rfl
  · rcases hquoted with rfl | rfl <;> rfl
  · exact decodeFrom_byCode c
  · rw [not_or] at hquoted
    rw [List.singleton_append, decodeFrom]
    all_goals simp_all
  · exact decodeFrom_byCode c

theorem decodeFrom_encode (text : List Char) (h : text.length < fuel) :
    decodeFrom fuel (encode text ++ '"' :: rest) = text := by
  induction text generalizing fuel with
  | nil =>
    obtain ⟨fuel, rfl⟩ := Nat.exists_eq_add_of_lt h
    rfl
  | cons c text ih =>
    obtain ⟨fuel, rfl⟩ : ∃ k, fuel = k + 1 := ⟨fuel - 1, by omega⟩
    rw [encode, List.append_assoc, decodeFrom_encodeChar, ih (by simpa using h)]

/-- What stands between quotes is read as the text that was quoted. -/
theorem decode_encode (text : List Char) : decode (encode text ++ ['"']) = text := by
  have hlength := Lexeme.length_le_encode text
  refine decodeFrom_encode text ?_
  rw [List.length_append, List.length_singleton]
  omega

end Text.Quoted

/-- A quoted text denotes the text, whatever its characters are. -/
theorem Attribute.textValue?_literal (text : String) :
    textValue? (Text.Quoted.literal text) = some text := by
  have htext : (Text.Quoted.literal text).toList = '"' :: (Text.Quoted.encode text.toList ++ ['"']) := by
    rw [Text.Quoted.literal, String.toList_ofList]
    rfl
  unfold textValue?
  rw [htext]
  have hinside := congrArg String.ofList (Text.Quoted.decode_encode text.toList)
  exact congrArg some (hinside.trans String.ofList_toList)

end Entrypoint

import Entrypoint.Json.Basic
import Entrypoint.Json.Quotation
import Mathlib.Tactic.SplitIfs

/-! Quoted texts read back. What stands for a character between quotes is the character itself, or
an escape that is read as it; none of it is a control. So a quoted text is read as the text that was
quoted, whatever comes behind its closing quote. -/

namespace Entrypoint

/-- The symbols of characters. -/
def Symbol.row (chars : List Char) : List Symbol := chars.map .char

@[simp]
theorem Symbol.row_cons (c : Char) (chars : List Char) : row (c :: chars) = .char c :: row chars :=
  rfl

@[simp]
theorem Symbol.row_append (front back : List Char) : row (front ++ back) = row front ++ row back :=
  List.map_append

theorem Symbol.length_row (chars : List Char) : (row chars).length = chars.length :=
  List.length_map _

theorem Symbol.text?_row (chars : List Char) : text? (row chars) = some chars := by
  induction chars with
  | nil => rfl
  | cons c chars ih => rw [row_cons, text?, ih, Option.map_some]

namespace JsonReading

variable {α β : Type} {reader : JsonReading α} {a : α} {chars : List Char} {c d : Char} {s : Symbol}
  {symbols rest rest' : List Symbol}

/-! ### Steps of readers -/

theorem run_bind_of_ok (f : α → JsonReading β) (h : reader.run rest = .ok (a, rest')) :
    (reader >>= f).run rest = (f a).run rest' := by
  rw [StateT.run_bind, h]
  rfl

@[simp]
theorem run_get_bind (f : List Symbol → JsonReading α) :
    (get >>= f).run rest = (f rest).run rest := rfl

@[simp]
theorem run_skip_bind (f : Unit → JsonReading α) :
    (skip >>= f).run (s :: rest) = (f ()).run rest := rfl

@[simp]
theorem run_peek_bind (f : Option Char → JsonReading α) :
    (peek >>= f).run (.char c :: rest) = (f (some c)).run (.char c :: rest) := rfl

/-- A reader takes characters from the front and gives a value, whatever comes behind them. -/
def Takes (reader : JsonReading α) (chars : List Char) (value : α) : Prop :=
  ∀ rest, reader.run (Symbol.row chars ++ rest) = .ok (value, rest)

/-! ### Escapes -/

/-- The digits of a code below a hundred in base sixteen. -/
theorem fourDigits?_hexDigit : ∀ n < 0x100, fourDigits? (Symbol.row
    ['0', '0', Text.Quoted.hexDigit (n / 16), Text.Quoted.hexDigit (n % 16)]) = some n := by
  decide +kernel

/-- Four characters have four bytes at least. -/
theorem four_le_size (c₁ c₂ c₃ c₄ : Char) : 4 ≤ Symbol.size (Symbol.row [c₁, c₂, c₃, c₄]) := by
  have h₁ := c₁.utf8Size_pos
  have h₂ := c₂.utf8Size_pos
  have h₃ := c₃.utf8Size_pos
  have h₄ := c₄.utf8Size_pos
  simp only [Symbol.row, List.map, Symbol.size, Symbol.byteSize]
  omega

theorem takes_escapeDigits {c₁ c₂ c₃ c₄ : Char} {n : Nat}
    (h : fourDigits? (Symbol.row [c₁, c₂, c₃, c₄]) = some n) :
    Takes escapeDigits [c₁, c₂, c₃, c₄] n := by
  intro rest
  have hsize := four_le_size c₁ c₂ c₃ c₄
  have htake : (Symbol.row [c₁, c₂, c₃, c₄] ++ rest).take 4 = Symbol.row [c₁, c₂, c₃, c₄] := rfl
  rw [escapeDigits, run_get_bind, htake, if_neg (Nat.not_lt.mpr hsize), h]
  rfl

theorem takes_coded {n : Nat} (hcode : n < 0x100) :
    Takes coded ['0', '0', Text.Quoted.hexDigit (n / 16), Text.Quoted.hexDigit (n % 16)]
      (Char.ofNat n) := by
  intro rest
  have hlow : isLow n = false := by simp [isLow]; omega
  have hhigh : isHigh n = false := by simp [isHigh]; omega
  rw [coded, run_bind_of_ok _ (takes_escapeDigits (fourDigits?_hexDigit n hcode) rest), hlow, hhigh]
  rfl

theorem takes_escaped_code (hreads : Takes coded chars c) : Takes escaped ('u' :: chars) c := by
  intro rest
  rw [escaped, Symbol.row_cons, List.cons_append, run_get_bind]
  exact hreads rest

theorem takes_escaped_letter (hshort : shortEscape? d = some c) : Takes escaped [d] c := by
  intro rest
  have hletter : d ≠ 'u' := fun h => nomatch (h ▸ hshort)
  rw [escaped, Symbol.row_cons, List.cons_append, run_get_bind]
  dsimp only
  rw [run_skip_bind, if_neg hletter, hshort]
  rfl

/-- What stands for a character: itself, or a backslash and an escape that is read as it. -/
theorem escape_cases (c : Char) :
    (Json.escape c = [c] ∧ c ≠ '"' ∧ c ≠ '\\' ∧ ¬c < ' ') ∨
      ∃ code, Json.escape c = '\\' :: code ∧ Takes escaped code c := by
  unfold Json.escape
  split_ifs with hquote hback hfeed hline hreturn htab hcontrol
  · refine .inr ⟨[c], rfl, takes_escaped_letter ?_⟩
    rcases hquote with rfl | rfl <;> rfl
  · exact .inr ⟨_, rfl, takes_escaped_letter (hback ▸ rfl)⟩
  · exact .inr ⟨_, rfl, takes_escaped_letter (hfeed ▸ rfl)⟩
  · exact .inr ⟨_, rfl, takes_escaped_letter (hline ▸ rfl)⟩
  · exact .inr ⟨_, rfl, takes_escaped_letter (hreturn ▸ rfl)⟩
  · exact .inr ⟨_, rfl, takes_escaped_letter (htab ▸ rfl)⟩
  · have hcode : c.toNat < 0x100 := Nat.lt_trans hcontrol (by decide)
    refine .inr ⟨_, rfl, takes_escaped_code ?_⟩
    have hreads := takes_coded hcode
    rwa [Char.ofNat_toNat] at hreads
  · exact .inl ⟨rfl, fun h => hquote (.inl h), fun h => hquote (.inr h), hcontrol⟩

/-! ### Strings -/

theorem takes_inside_end (fuel : Nat) : Takes (inside (fuel + 1)) ['"'] [] := fun _ => rfl

/-- One step of the inside of a string. -/
theorem takes_inside_escape {fuel : Nat} (hreads : Takes (inside fuel) chars symbols) :
    Takes (inside (fuel + 1)) (Json.escape c ++ chars) (.char c :: symbols) := by
  intro rest
  rcases escape_cases c with ⟨hplain, hquote, hbackslash, hcontrol⟩ | ⟨code, hcode, hescape⟩
  · rw [hplain, List.singleton_append, Symbol.row_cons, List.cons_append, inside, run_get_bind]
    dsimp only
    rw [run_skip_bind, if_neg hquote, if_neg hbackslash, if_neg hcontrol]
    exact run_bind_of_ok _ (hreads rest)
  · rw [hcode, List.cons_append, Symbol.row_cons, List.cons_append, inside, run_get_bind]
    dsimp only
    rw [run_skip_bind, if_neg (by decide), if_pos rfl]
    rw [Symbol.row_append, List.append_assoc, run_bind_of_ok _ (hescape _)]
    exact run_bind_of_ok _ (hreads rest)

/-- The inside of a quoted text is read with as much fuel as the text is long. -/
theorem takes_inside {fuel : Nat} (text : List Char) (hfuel : text.length < fuel) :
    Takes (inside fuel) (text.flatMap Json.escape ++ ['"']) (Symbol.row text) := by
  induction text generalizing fuel with
  | nil =>
    cases fuel with
    | zero => exact absurd hfuel (Nat.not_lt_zero _)
    | succ fuel => exact takes_inside_end fuel
  | cons c text ih =>
    cases fuel with
    | zero => exact absurd hfuel (Nat.not_lt_zero _)
    | succ fuel =>
      rw [List.flatMap_cons, List.append_assoc]
      exact takes_inside_escape (ih (Nat.lt_of_succ_lt_succ hfuel))

theorem length_le_flatMap_escape (text : List Char) :
    text.length ≤ (text.flatMap Json.escape).length := by
  induction text with
  | nil => exact Nat.le_refl _
  | cons c text ih =>
    have hpos : 0 < (Json.escape c).length := by
      rcases escape_cases c with ⟨h, _⟩ | ⟨_, h, _⟩ <;> simp [h]
    rw [List.flatMap_cons, List.length_append, List.length_cons]
    omega

/-- **A quoted text reads back.** -/
theorem takes_string (text : String) :
    Takes string (text.toList.flatMap Json.escape ++ ['"']) text := by
  intro rest
  have hfuel : text.toList.length <
      (Symbol.row (text.toList.flatMap Json.escape ++ ['"']) ++ rest).length + 1 := by
    have hle := length_le_flatMap_escape text.toList
    rw [List.length_append, Symbol.length_row, List.length_append]
    omega
  rw [string, run_get_bind, run_bind_of_ok _ (takes_inside text.toList hfuel rest),
    Symbol.text?_row]
  dsimp only
  rw [String.ofList_toList]
  rfl

/-! ### Controls -/

theorem le_hexDigit : ∀ n < 16, ' ' ≤ Text.Quoted.hexDigit n := by decide

theorem le_of_mem_letter {letter : Char} (h : ' ' ≤ letter) : ∀ d ∈ ['\\', letter], ' ' ≤ d := by
  intro d hd
  rw [List.mem_cons, List.mem_singleton] at hd
  rcases hd with rfl | rfl
  · decide
  · exact h

/-- No control stands for a character. -/
theorem le_of_mem_escape : ∀ d ∈ Json.escape c, ' ' ≤ d := by
  unfold Json.escape
  split_ifs with hquote _ _ _ _ _ hcontrol
  · refine le_of_mem_letter ?_
    rcases hquote with rfl | rfl <;> decide
  iterate 5 · exact le_of_mem_letter (by decide)
  · have hcode : c.toNat < 0x20 := hcontrol
    intro d hd
    simp only [List.mem_cons, List.not_mem_nil, or_false] at hd
    rcases hd with rfl | rfl | rfl | rfl | rfl | rfl
    iterate 4 · decide
    · exact le_hexDigit _ (by omega)
    · exact le_hexDigit _ (Nat.mod_lt _ (by decide))
  · intro d hd
    cases List.mem_singleton.mp hd
    exact Char.not_lt.mp hcontrol

/-- A quoted text has no controls. -/
theorem le_of_mem_quoted {text : String} (h : d ∈ Json.quoted text) : ' ' ≤ d := by
  simp only [Json.quoted, List.cons_append, List.mem_cons, List.mem_append, List.mem_flatMap,
    List.not_mem_nil, or_false] at h
  rcases h with rfl | ⟨c, _, hd⟩ | rfl
  · decide
  · exact le_of_mem_escape d hd
  · decide

end JsonReading

end Entrypoint

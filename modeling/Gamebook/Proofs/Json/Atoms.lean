import Gamebook.Json.Printer
import Gamebook.Proofs.Json.Spelling
import Gamebook.Proofs.Numeral

/-!
# Strings and whole numbers in JSON

Strings and whole numbers are written as the grammar spells them, if a string is made of whole
characters and a number has not too many digits.

## Key results

- `inside_flatMap_renderChar`: strings of whole characters
- `figure_write`: whole numbers of at most `Whole.maxDigits` digits
-/

namespace Gamebook

/-- `ofNumbers` takes the numbers of characters back to these characters. -/
theorem Wording.ofNumbers_toNat (cs : List Char) :
    ofNumbers (cs.map Char.toNat) = ofChars cs := by
  -- no character has the number of a half
  have hhalf (c : Char) :
      Symbol.isFirstHalf c.toNat = false ∧ Symbol.isSecondHalf c.toNat = false := by
    have hvalid : c.toNat < 0xd800 ∨ 0xdfff < c.toNat ∧ c.toNat < 0x110000 := c.valid
    simp only [Symbol.isFirstHalf, Symbol.isSecondHalf, Bool.and_eq_false_iff,
      decide_eq_false_iff_not]
    omega
  have hsymbol (c : Char) : Symbol.ofNumber c.toNat = .char c := by
    simp [Symbol.ofNumber, hhalf c, Char.ofNat_toNat]
  induction cs with
  | nil => rfl
  | cons c cs ih =>
    cases cs with
    | nil => simp [ofNumbers, ofChars, hsymbol]
    | cons d cs =>
      simp only [List.map_cons, ofChars] at ih
      simp [ofNumbers, ofChars, hsymbol, hhalf, ih]

namespace Json

/-! ## Strings -/

/-- `hexFour?` takes back what `hexDigits` does. -/
private theorem hexFour?_hexDigits {n : Nat} (h : n < 0x10000) :
    ∃ a b c d, Text.hexDigits 4 n = [a, b, c, d] ∧ hexFour? a b c d = some n := by
  have hdigit : ∀ k < 16, hexValue? (Nat.digitChar k) = some k := by decide
  refine ⟨_, _, _, _, rfl, ?_⟩
  simp only [hexFour?, hdigit _ (Nat.mod_lt _ (by decide : 0 < 16)), bind, Option.bind, pure]
  congr 1
  omega

/-- `renderChar` writes a character as a `Piece` that stands for its number. -/
private theorem piece_renderChar (c : Char) : Piece (renderChar c) c.toNat := by
  -- seven characters have a letter of their own, and the other low ones are written in digits
  unfold renderChar
  split
  · exact .letter rfl
  · exact .letter rfl
  · exact .letter rfl
  · exact .letter rfl
  · exact .letter rfl
  · exact .letter rfl
  · exact .letter rfl
  · rename_i hquote hslash _ _ _ _ _
    split
    · obtain ⟨a, b, c, d, hdigits, hfour⟩ := hexFour?_hexDigits (n := c.toNat) (by omega)
      rw [hdigits]
      exact .digits hfour
    · rename_i hlow
      exact .plain hquote hslash (Nat.le_of_not_lt hlow)

/-- A string of whole characters is written as the `Inside` that stands for them. -/
theorem inside_flatMap_renderChar (cs : List Char) :
    Inside (cs.flatMap renderChar) (cs.map Char.toNat) := by
  induction cs with
  | nil => exact .nil
  | cons c cs ih => exact .cons (piece_renderChar c) ih

/-! ## Whole numbers -/

/-- The decimal text of a number other than zero does not start with one. -/
private theorem head?_toDigits {n : Nat} (h : 0 < n) : (Nat.toDigits 10 n).head? ≠ some '0' := by
  -- the first digit is that of a tenth of the number, down to a single digit
  induction n using Nat.strongRecOn with
  | ind n ih =>
    rw [Nat.toDigits_eq_if (by decide)]
    split
    · rename_i hlt
      have hdigit : ∀ k < 10, 0 < k → Nat.digitChar k ≠ '0' := by decide
      simpa using hdigit n hlt h
    · rename_i hle
      have hfirst := ih (n / 10) (by omega) (by omega)
      obtain ⟨d, ds, hds, -⟩ := Text.exists_toDigits_eq_cons (n / 10)
      rw [hds] at hfirst ⊢
      exact hfirst

/-- The decimal text of a number `IsWholePart`. -/
private theorem isWholePart_toDigits (n : Nat) : IsWholePart (Nat.toDigits 10 n) := by
  rcases Nat.eq_zero_or_pos n with rfl | hpos
  · exact .inl (Nat.toDigits_zero 10)
  · refine .inr ⟨⟨?_, fun c hc => ?_⟩, head?_toDigits hpos⟩
    · obtain ⟨d, ds, hds, -⟩ := Text.exists_toDigits_eq_cons n
      rw [hds]
      exact List.cons_ne_nil _ _
    · exact Nat.isDigit_of_mem_toDigits (by decide) (by decide) hc

/-- `write` gives a `Figure`, if the number has not too many digits. -/
theorem figure_write {n : Int} (hn : n.natAbs < Whole.limit) : Figure (Whole.write n) (.int n) := by
  have hlength : (Nat.toDigits 10 n.natAbs).length ≤ Whole.maxDigits :=
    (Whole.length_toDigits_le_iff _).2 hn
  have hfigure := Figure.whole (decide (n < 0)) (isWholePart_toDigits n.natAbs) hlength
  rw [Text.numeral_toDigits] at hfigure
  -- the sign is written exactly if the number is below zero
  by_cases hneg : n < 0
  · have hvalue : -(n.natAbs : Int) = n := by omega
    rw [Whole.write, if_pos hneg]
    simpa only [hneg, decide_true, minus, if_true, List.singleton_append, hvalue] using hfigure
  · have hvalue : (n.natAbs : Int) = n := by omega
    rw [Whole.write, if_neg hneg]
    simpa only [hneg, decide_false, minus, Bool.false_eq_true, if_false, List.nil_append,
      hvalue] using hfigure

end Json

end Gamebook

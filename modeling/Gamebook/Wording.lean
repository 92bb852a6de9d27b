import Gamebook.Text.Quoted
import Gamebook.Text.Upper

/-!
# Wording

The texts of a language pack are rows of symbols. A symbol is a character, or half of one: JSON can
write a character beyond the first 65536 as two numbers, and a pack may hold one of the two without
the other. A half takes a place in its text like a character. Quoted text shows it by its number;
anywhere else it cannot be shown, and the replacement character stands for it.
-/

namespace Gamebook

/-- A character, or half of one by its number. -/
inductive Symbol where
  | char (c : Char)
  | half (number : Nat)
  deriving DecidableEq, Repr

/-- A text in symbols. -/
abbrev Wording := List Symbol

namespace Symbol

/-- The character that a symbol is. -/
def char? : Symbol → Option Char
  | .char c => some c
  | .half _ => none

/-- What the player sees of a symbol. A mark stands for half a character. -/
def shown : Symbol → Char
  | .char c => c
  | .half _ => '�'

/-- A symbol as it stands between two marks `quote`. -/
def quoted (quote : Char) : Symbol → List Char
  | .char c => Text.quoteChar quote c
  | .half number => '\\' :: 'u' :: Text.hexDigits 4 number

/-- A symbol in capitals. -/
def upper : Symbol → Wording
  | .char c => (Text.upperChar c).map .char
  | .half number => [.half number]

/-- Whether a number is that of a first half. -/
def isFirstHalf (n : Nat) : Bool := 0xd800 ≤ n && n < 0xdc00

/-- Whether a number is that of a second half. -/
def isSecondHalf (n : Nat) : Bool := 0xdc00 ≤ n && n < 0xe000

/-- The largest number of a symbol. -/
def maxNumber : Nat := 0x10ffff

/-- The symbol of a number. -/
def ofNumber (n : Nat) : Symbol :=
  if isFirstHalf n || isSecondHalf n then .half n else .char (Char.ofNat n)

/-- The character of two halves. -/
def join (first second : Nat) : Symbol :=
  .char (Char.ofNat (0x10000 + (first - 0xd800) * 0x400 + (second - 0xdc00)))

end Symbol

namespace Wording

/-- Characters as a wording. -/
def ofChars (cs : List Char) : Wording := cs.map .char

/-- A string as a wording. -/
def ofString (s : String) : Wording := ofChars s.toList

instance : Coe String Wording := ⟨ofString⟩

/-- The characters of a wording without halves. -/
def chars? (w : Wording) : Option (List Char) := w.mapM Symbol.char?

/-- What the player sees of a wording. -/
def shown (w : Wording) : String := String.ofList (w.map Symbol.shown)

/-- A wording in capitals. -/
def upper (w : Wording) : Wording := w.flatMap Symbol.upper

/-- A wording between quotes. -/
def quote (w : Wording) : List Char :=
  let q := Text.quoteFor (w.filterMap Symbol.char?)
  q :: (w.flatMap (Symbol.quoted q) ++ [q])

/-- The wording of a row of numbers. A first and a second half in a row are one character. -/
def ofNumbers : List Nat → Wording
  | [] => []
  | [n] => [.ofNumber n]
  | n :: m :: numbers =>
    if Symbol.isFirstHalf n && Symbol.isSecondHalf m then .join n m :: ofNumbers numbers
    else .ofNumber n :: ofNumbers (m :: numbers)

@[simp] theorem chars?_ofChars (cs : List Char) : chars? (ofChars cs) = some cs := by
  induction cs with
  | nil => rfl
  | cons c cs ih =>
    simp only [chars?, ofChars] at ih
    simp [chars?, ofChars, Symbol.char?, ih]

example : ofNumbers [0xd83d, 0xde00, 0xde00] = [.char '😀', .half 0xde00] := by decide
example : quote [.char 'a', .half 0xd800] = ['\'', 'a', '\\', 'u', 'd', '8', '0', '0', '\''] := by
  decide

end Wording

end Gamebook

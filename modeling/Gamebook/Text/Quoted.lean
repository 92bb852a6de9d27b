import Gamebook.Text.Visible

/-!
# Quoted text

Messages show a text between quotes so that blanks and odd characters in it can be seen. The quote
is `'`, or `"` for a text that holds `'` and no `"`. Inside, the quote and the backslash get a
backslash, line ends and tabs a letter, and any character that is not visible its number.

`escapeBeyondAscii` goes one step further and leaves ASCII only.
-/

namespace Gamebook.Text

/-- The last `width` hexadecimal digits of a number, zeros included. -/
def hexDigits : (width n : Nat) → List Char
  | 0, _ => []
  | width + 1, n => hexDigits width (n / 16) ++ [Nat.digitChar (n % 16)]

/-- A character by its number: two, four or eight hexadecimal digits, as few as it takes. -/
def numbered (c : Char) : List Char :=
  let n := c.toNat
  if n < 0x100 then '\\' :: 'x' :: hexDigits 2 n
  else if n < 0x10000 then '\\' :: 'u' :: hexDigits 4 n
  else '\\' :: 'U' :: hexDigits 8 n

/-- The quote that a text is put between. -/
def quoteFor (cs : List Char) : Char :=
  if cs.contains '\'' && !cs.contains '"' then '"' else '\''

/-- One character as it stands between two marks `quote`. -/
def quoteChar (quote c : Char) : List Char :=
  if c == quote || c == '\\' then ['\\', c]
  else if c == '\n' then ['\\', 'n']
  else if c == '\r' then ['\\', 'r']
  else if c == '\t' then ['\\', 't']
  else if isVisible c then [c]
  else numbered c

/-- A text between quotes. -/
def quote (cs : List Char) : List Char :=
  let q := quoteFor cs
  q :: (cs.flatMap (quoteChar q) ++ [q])

/-- A text with every character beyond ASCII replaced by its number. -/
def escapeBeyondAscii (cs : List Char) : List Char :=
  cs.flatMap fun c => if c.toNat < 0x80 then [c] else numbered c

/-- One byte as it stands between two marks `quote`: ASCII that is visible as itself, the rest by
    number. -/
def quoteByte (quote : Char) (b : UInt8) : List Char :=
  let c := Char.ofNat b.toNat
  if b.toNat < 0x80 then quoteChar quote c else '\\' :: 'x' :: hexDigits 2 b.toNat

/-- A row of bytes between quotes, marked with a `b` in front. -/
def quoteBytes (bs : List UInt8) : List Char :=
  let q := quoteFor (bs.map fun b => Char.ofNat b.toNat)
  'b' :: q :: (bs.flatMap (quoteByte q) ++ [q])

/-- A string between quotes. -/
def quoted (s : String) : String := String.ofList (quote s.toList)

end Gamebook.Text

/-!
# Blank characters

Lines, answers and option texts are trimmed of blanks on both sides before they are looked at.
`isBlank` is the set of characters trimmed away; `trim` keeps what lies between the first and the
last character that is not blank.
-/

namespace Gamebook.Text

/-- Whether a character is blank: tabs and line ends, the four separators U+001C to U+001F, the
    space, and the wide, narrow and no-break spaces of other scripts. -/
def isBlank (c : Char) : Bool :=
  let n := c.toNat
  (9 ≤ n && n ≤ 13) || (0x1c ≤ n && n ≤ 0x20) || n == 0x85 || n == 0xa0 || n == 0x1680 ||
    (0x2000 ≤ n && n ≤ 0x200a) || n == 0x2028 || n == 0x2029 || n == 0x202f || n == 0x205f ||
    n == 0x3000

/-- A text without the blanks at its start. -/
def trimStart (cs : List Char) : List Char := cs.dropWhile isBlank

/-- A text without the blanks at its end. -/
def trimEnd (cs : List Char) : List Char := (cs.reverse.dropWhile isBlank).reverse

/-- A text without the blanks on either side. -/
def trim (cs : List Char) : List Char := trimEnd (trimStart cs)

example : trim [' ', 'a', ' ', 'b', '\t'] = ['a', ' ', 'b'] := by decide
example : trim ['\x1f', ' ', '　'] = [] := by decide

end Gamebook.Text

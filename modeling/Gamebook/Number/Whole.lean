import Gamebook.Text.Blank
import Gamebook.Text.Digit

/-!
# Whole numbers as text

Points and choices are unbounded whole numbers. `read` takes a number from a text: padding on both
sides, one sign, digits of any script, and single underscores between digits. `write?` gives the
decimal text. Neither direction goes past `maxDigits` digits: a longer number is refused rather
than converted.
-/

namespace Gamebook.Whole

/-- The most digits that a number may have when it is read or written as text. -/
def maxDigits : Nat := 4300

/-- Why a text was not read as a number. -/
inductive ReadFault where
  /-- The text is not a number. -/
  | malformed
  /-- The text starts with a number of this many digits, more than `maxDigits`. -/
  | tooLong (digits : Nat)
  deriving DecidableEq, Repr

/-- Whether a character may stand beside a number: the blanks, without the separators U+001C to
    U+001F. -/
def isPadding (c : Char) : Bool := Text.isBlank c && !(0x1c ≤ c.toNat && c.toNat ≤ 0x1f)

/-- Splits an optional sign from a text. The flag tells a minus. -/
def takeSign : List Char → Bool × List Char
  | '+' :: cs => (false, cs)
  | '-' :: cs => (true, cs)
  | cs => (false, cs)

/-- Whether every underscore stands between two digits, in a row of digits and underscores of which
    `afterDigit` tells if a digit stands in front. -/
def wellSpaced : (afterDigit : Bool) → List Char → Bool
  | afterDigit, [] => afterDigit
  | afterDigit, c :: cs =>
    if c == '_' then afterDigit && wellSpaced false cs else wellSpaced true cs

/-- The whole number that a text spells. The length of the first row of digits is judged before
    anything that follows it. -/
def read (cs : List Char) : Except ReadFault Int :=
  let (negative, body) := takeSign (cs.dropWhile isPadding)
  let inNumber := fun c => Text.isDigit c || c == '_'
  let row := body.takeWhile inNumber
  let digits := row.filter (· != '_')
  if !wellSpaced false row then .error .malformed
  else if maxDigits < digits.length then .error (.tooLong digits.length)
  else if (body.dropWhile inNumber).all isPadding then
    let n : Int := Text.numeral digits 0
    .ok (if negative then -n else n)
  else .error .malformed

/-- The decimal text of a whole number. -/
def write (n : Int) : List Char :=
  if n < 0 then '-' :: Nat.toDigits 10 n.natAbs else Nat.toDigits 10 n.natAbs

/-- The least number with more than `maxDigits` digits. -/
def limit : Nat := Nat.pow 10 maxDigits

/-- The decimal text of a whole number that has at most `maxDigits` digits. -/
def write? (n : Int) : Option (List Char) :=
  if n.natAbs < limit then some (write n) else none

example : read [' ', '-', '1', '_', '0'] = .ok (-10) := by rfl
example : read ['1', '_'] = .error .malformed := by rfl
example : read [] = .error .malformed := by rfl
example : read ['+', '٣', '\n'] = .ok 3 := by rfl

end Gamebook.Whole

import Gamebook.Number.Binary64

/-!
# Numbers with a fraction as text

A finite number is exactly `mantissa * 2 ^ exponent`, so its decimal digits are found in exact
arithmetic. `shortest` gives the fewest digits that read back as the same number, the nearest of
those when there is a choice; `significant` gives a fixed count of digits and `fixedPoint` a fixed
count of places, both rounded to the nearest with ties to the even digit.

`Digits` are then laid out with a point alone (`positional`) or with a power of ten (`scientific`).
-/

namespace Gamebook.Binary64

/-- Decimal digits `d₁d₂…` with a point: the value is `0.d₁d₂… * 10 ^ point`. -/
structure Digits where
  digits : List Char
  point : Int
  deriving DecidableEq, Repr

/-- Without the zeros at the end, down to one digit. -/
def Digits.stripZeros (d : Digits) : Digits :=
  match (d.digits.reverse.dropWhile (· == '0')).reverse with
  | [] => { d with digits := ['0'] }
  | ds => { d with digits := ds }

/-- With zeros at the end up to a count of digits. -/
def Digits.padTo (d : Digits) (count : Nat) : Digits :=
  { d with digits := d.digits ++ List.replicate (count - d.digits.length) '0' }

/-- The least `p` with `num / den < 10 ^ p`, for a positive quotient. The binary logarithms give it
    up to a few units. -/
def decimalPoint (num den : Nat) : Int :=
  let guess := ((num.log2 : Int) - den.log2) * 30103 / 100000
  let below := fun p : Int =>
    let (n, d) := scaleTen num den p
    decide (n < d)
  (([guess - 1, guess, guess + 1, guess + 2]).find? below).getD (guess + 2)

/-- The quotient `num / den` to `count` digits, rounded to the nearest with ties to even. -/
def significantOf (num den count : Nat) : Digits :=
  if num = 0 then ⟨List.replicate count '0', 1⟩
  else
    let p := decimalPoint num den
    let (n, d) := scaleTen num den (p - count)
    let q := roundDiv n d
    if q = Nat.pow 10 count then ⟨Nat.toDigits 10 (q / 10), p + 1⟩ else ⟨Nat.toDigits 10 q, p⟩

/-- A finite number without its sign, as an exact quotient. -/
def ratio (mantissa : Nat) (exponent : Int) : Nat × Nat := scaleTwo mantissa 1 (-exponent)

/-- The number of `count` digits next to `mantissa * 2 ^ exponent`, below or above, that reads back
    as the same number: the nearer one of two, and of two equally near ones the even one. -/
def readBack? (mantissa : Nat) (exponent : Int) (count : Nat) : Option Digits :=
  let (num, den) := ratio mantissa exponent
  let p := decimalPoint num den
  let (n, d) := scaleTen num den (p - count)
  let below := n / d
  let nearest := roundDiv n d
  let farther := if nearest = below then below + 1 else below
  let same := fun q => ofDecimal false q (p - count) = .finite false mantissa exponent
  let ofQuotient := fun q =>
    (if q = Nat.pow 10 count then (⟨Nat.toDigits 10 (q / 10), p + 1⟩ : Digits)
      else ⟨Nat.toDigits 10 q, p⟩).stripZeros
  if same nearest then some (ofQuotient nearest)
  else if n % d ≠ 0 ∧ same farther then some (ofQuotient farther)
  else none

/-- The fewest digits that read back as the same number. Seventeen are always enough. -/
def shortest (mantissa : Nat) (exponent : Int) : Digits :=
  if mantissa = 0 then ⟨['0'], 1⟩
  else
    match (List.range 17).findSome? fun k => readBack? mantissa exponent (k + 1) with
    | some d => d
    | none =>
      let (num, den) := ratio mantissa exponent
      (significantOf num den 17).stripZeros

/-- The digits before and after the point. A number below one has a single zero before it. -/
def Digits.positional (d : Digits) : List Char × List Char :=
  if d.point ≤ 0 then (['0'], List.replicate (-d.point).toNat '0' ++ d.digits)
  else
    let p := d.point.toNat
    ((d.padTo p).digits.take p, d.digits.drop p)

/-- Digits before the point and digits after it, with the point only if digits follow or it is
    asked for. -/
def withPoint (keepPoint : Bool) (before after : List Char) : List Char :=
  if after.isEmpty && !keepPoint then before else before ++ '.' :: after

/-- A power of ten: its letter, its sign, and at least two digits. -/
def powerText (letter : Char) (power : Int) : List Char :=
  let ds := Nat.toDigits 10 power.natAbs
  letter :: (if power < 0 then '-' else '+') :: (List.replicate (2 - ds.length) '0' ++ ds)

/-- One digit before the point, the others after it, and the power of ten. -/
def Digits.scientific (d : Digits) (keepPoint : Bool) (letter : Char) : List Char :=
  withPoint keepPoint (d.digits.take 1) (d.digits.drop 1) ++ powerText letter (d.point - 1)

/-- How a number with a fraction is laid out. -/
inductive Layout where
  /-- The fewest digits; a point alone while `-4 < point ≤ 16`, and then with at least one place. -/
  | shortest
  /-- This many places after the point. -/
  | fixed (places : Nat)
  /-- One digit before the point and this many after it, with a power of ten. -/
  | scientific (places : Nat)
  /-- This many digits; a point alone for powers that such digits reach. `atLeastOnePlace` asks for
      a digit after the point where there is no power of ten. -/
  | general (digits : Nat) (atLeastOnePlace : Bool)
  deriving DecidableEq, Repr

/-- No finite number has more significant digits than this, and no more places after the point. What
    is asked for beyond them are zeros. -/
def maxDigits : Nat := 1074

/-- A number without its sign. `alternate` keeps the point and the zeros that would be dropped;
    `capital` writes letters as capitals. -/
def magnitude (layout : Layout) (alternate capital : Bool) (mantissa : Nat) (exponent : Int) :
    List Char :=
  let (num, den) := ratio mantissa exponent
  let letter := if capital then 'E' else 'e'
  match layout with
  | .shortest =>
    let d := Binary64.shortest mantissa exponent
    if d.point ≤ -4 || 16 < d.point then d.scientific alternate letter
    else
      let (before, after) := d.positional
      withPoint alternate before (if after.isEmpty then ['0'] else after)
  | .fixed places =>
    let exact := min places maxDigits
    let ds := Nat.toDigits 10 (roundDiv (num * Nat.pow 10 exact) den)
    let ds := List.replicate (exact + 1 - ds.length) '0' ++ ds
    let (before, after) := ds.splitAt (ds.length - exact)
    withPoint alternate before (after ++ List.replicate (places - exact) '0')
  | .scientific places =>
    let count := places + 1
    ((significantOf num den (min count maxDigits)).padTo count).scientific alternate letter
  | .general digits atLeastOnePlace =>
    let count := max digits 1
    let full := significantOf num den (min count maxDigits)
    let d := if alternate then full.padTo count else full.stripZeros
    let limit : Int := if atLeastOnePlace then (count : Int) - 1 else count
    if d.point ≤ -4 || limit < d.point then d.scientific alternate letter
    else
      let (before, after) := d.positional
      withPoint alternate before (if after.isEmpty && atLeastOnePlace then ['0'] else after)

/-- A number with its sign if it is negative. What is no number never has one. -/
def layOut (layout : Layout) (alternate capital : Bool) : Binary64 → List Char
  | .nan => if capital then ['N', 'A', 'N'] else ['n', 'a', 'n']
  | .infinite negative =>
    (if negative then ['-'] else []) ++ (if capital then ['I', 'N', 'F'] else ['i', 'n', 'f'])
  | .finite negative m e =>
    (if negative then ['-'] else []) ++ magnitude layout alternate capital m e

/-- The usual text of a number with a fraction. -/
def text (x : Binary64) : List Char := layOut .shortest false false x

end Gamebook.Binary64

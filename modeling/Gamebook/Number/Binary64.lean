/-!
# Numbers with a fraction

Numbers with a fraction are kept in the binary format of 64 bits: a sign, a mantissa below 2^53 and
a power of two, with infinities for what is too large and one value for what is no number.

`ofRatio` rounds an exact quotient to the nearest such number, the even one of two that are equally
near; `ofDecimal` reads a decimal that way, and `bits` gives the stored form.
-/

namespace Gamebook

/-- A number of the binary format of 64 bits. A finite one is `mantissa * 2 ^ exponent`. -/
inductive Binary64 where
  | nan
  | infinite (negative : Bool)
  | finite (negative : Bool) (mantissa : Nat) (exponent : Int)
  deriving DecidableEq, Repr

namespace Binary64

/-- The least power of two of a finite number. -/
def minExponent : Int := -1074

/-- The largest power of two of a finite number. -/
def maxExponent : Int := 971

/-- Zero, with a sign. -/
def zero (negative : Bool) : Binary64 := .finite negative 0 minExponent

/-- The whole number nearest to `num / den`, the even one of two that are equally near. -/
def roundDiv (num den : Nat) : Nat :=
  let q := num / den
  let r := num % den
  if den < 2 * r || (2 * r == den && q % 2 == 1) then q + 1 else q

/-- The quotient `num / den` divided by `2 ^ e`, as numerator and denominator. -/
def scaleTwo (num den : Nat) (e : Int) : Nat × Nat :=
  if 0 ≤ e then (num, den * Nat.pow 2 e.toNat) else (num * Nat.pow 2 (-e).toNat, den)

/-- The quotient `num / den` divided by `10 ^ e`, as numerator and denominator. -/
def scaleTen (num den : Nat) (e : Int) : Nat × Nat :=
  if 0 ≤ e then (num, den * Nat.pow 10 e.toNat) else (num * Nat.pow 10 (-e).toNat, den)

/-- The number nearest to `num / den`, where `den` is positive. -/
def ofRatio (negative : Bool) (num den : Nat) : Binary64 :=
  if num = 0 then zero negative
  else
    -- A first guess at the exponent: the scaled quotient has 53 or 54 bits.
    let guess := max minExponent ((num.log2 : Int) - den.log2 - 53)
    let (n, d) := scaleTwo num den guess
    let e := if Nat.pow 2 53 ≤ n / d then guess + 1 else guess
    let (n, d) := scaleTwo num den e
    let m := roundDiv n d
    -- Rounding up may carry into a 54th bit.
    let (m, e) := if m = Nat.pow 2 53 then (Nat.pow 2 52, e + 1) else (m, e)
    if maxExponent < e then .infinite negative else .finite negative m e

/-- The number nearest to `digits * 10 ^ power`. Powers far outside the format are settled without
    computing them. -/
def ofDecimal (negative : Bool) (digits : Nat) (power : Int) : Binary64 :=
  if digits = 0 then zero negative
  else if 400 < power then .infinite negative
  else if power < -400 - (digits.log2 : Int) - 1 then zero negative
  else
    let (num, den) := scaleTen digits 1 (-power)
    ofRatio negative num den

/-- The number nearest to a whole number. -/
def ofInt (n : Int) : Binary64 := ofRatio (n < 0) n.natAbs 1

/-- A number times a hundred, rounded. -/
def timesHundred : Binary64 → Binary64
  | .finite negative m e =>
    let (num, den) := scaleTwo (100 * m) 1 (-e)
    ofRatio negative num den
  | x => x

/-- Whether a number is greater than zero. -/
def isPositive : Binary64 → Bool
  | .nan => false
  | .infinite negative => !negative
  | .finite negative m _ => !negative && m != 0

/-- Whether a number is finite. -/
def isFinite : Binary64 → Bool
  | .finite .. => true
  | _ => false

/-- The stored form: the sign in the highest bit, eleven bits of exponent, 52 bits of mantissa. -/
def bits : Binary64 → Nat
  | .nan => 0x7ff8000000000000
  | .infinite negative => (if negative then Nat.pow 2 63 else 0) + 0x7ff0000000000000
  | .finite negative m e =>
    let magnitude :=
      if m < Nat.pow 2 52 then m else (e - minExponent).toNat * Nat.pow 2 52 + m
    (if negative then Nat.pow 2 63 else 0) + magnitude

example : bits (ofDecimal false 15 (-1)) = 0x3ff8000000000000 := by decide +kernel
example : bits (ofDecimal false 1 (-1)) = 0x3fb999999999999a := by decide +kernel
example : ofDecimal false 5 (-324) = .finite false 1 (-1074) := by decide +kernel
example : isFinite (ofDecimal true 17 307) = true := by decide +kernel
example : ofDecimal true 18 307 = .infinite true := by decide +kernel

end Binary64

end Gamebook

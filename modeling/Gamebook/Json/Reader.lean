import Gamebook.Json.Basic
import Gamebook.Number.Whole

/-!
# Reading JSON

`Json.parse` reads one value with gaps around it. Beyond the standard it takes `NaN`, `Infinity` and
`-Infinity`; it refuses control characters inside strings, whole numbers of more than
`Whole.maxDigits` digits, and lists and objects that stand too deep inside one another. How deep
they may stand depends on the room that is left to the reader, and so is given to `parse`.

The readers take the characters from the front and give back the rest. A value nests other values,
so `readValue` counts down the levels that may still be opened, and a budget of steps; `parse` gives
it more steps than the text can use up.
-/

namespace Gamebook.Json

/-- A text without the gap (spaces, tabs and line ends) at its start. -/
def skipGap (cs : List Char) : List Char :=
  cs.dropWhile fun c => c == ' ' || c == '\t' || c == '\n' || c == '\r'

/-- The value of a hexadecimal digit. -/
def hexValue? (c : Char) : Option Nat :=
  if '0' ≤ c && c ≤ '9' then some (c.toNat - 48)
  else if 'a' ≤ c && c ≤ 'f' then some (c.toNat - 87)
  else if 'A' ≤ c && c ≤ 'F' then some (c.toNat - 55)
  else none

/-- The number that four hexadecimal digits spell. -/
def hexFour? (a b c d : Char) : Option Nat := do
  let a ← hexValue? a
  let b ← hexValue? b
  let c ← hexValue? c
  let d ← hexValue? d
  return ((a * 16 + b) * 16 + c) * 16 + d

/-- What a letter after a backslash stands for. -/
def escaped? : Char → Option Char
  | '"' => some '"'
  | '\\' => some '\\'
  | '/' => some '/'
  | 'b' => some '\x08'
  | 'f' => some '\x0c'
  | 'n' => some '\n'
  | 'r' => some '\r'
  | 't' => some '\t'
  | _ => none

/-- The numbers that a string is made of, up to its closing quote, and what follows it. -/
def readNumbers : List Char → Option (List Nat × List Char)
  | [] => none
  | '"' :: cs => some ([], cs)
  | '\\' :: 'u' :: a :: b :: c :: d :: cs => do
    let n ← hexFour? a b c d
    let (numbers, rest) ← readNumbers cs
    return (n :: numbers, rest)
  | '\\' :: e :: cs => do
    let c ← escaped? e
    let (numbers, rest) ← readNumbers cs
    return (c.toNat :: numbers, rest)
  | c :: cs => do
    if c.toNat < 0x20 || c == '\\' then none
    else
      let (numbers, rest) ← readNumbers cs
      return (c.toNat :: numbers, rest)

/-- A string whose opening quote has been read. -/
def readString (cs : List Char) : Option (Wording × List Char) := do
  let (numbers, rest) ← readNumbers cs
  return (Wording.ofNumbers numbers, rest)

/-- The digits before the point: a single zero, or digits that start with none. -/
def takeWholePart : List Char → Option (List Char × List Char)
  | '0' :: cs => some (['0'], cs)
  | c :: cs => if c.isDigit then some ((c :: cs).span Char.isDigit) else none
  | [] => none

/-- The digits after a point, which is left alone unless a digit follows it. -/
def takePlaces : List Char → List Char × List Char
  | '.' :: c :: cs => if c.isDigit then (c :: cs).span Char.isDigit else ([], '.' :: c :: cs)
  | cs => ([], cs)

/-- A power of ten, which is left alone unless it has a digit. -/
def takePower (cs : List Char) : Option Int × List Char :=
  match cs with
  | e :: rest =>
    if e == 'e' || e == 'E' then
      let (negative, digits) := Whole.takeSign rest
      match digits.span Char.isDigit with
      | ([], _) => (none, cs)
      | (ds, rest) =>
        let n : Int := Text.numeral ds 0
        (some (if negative then -n else n), rest)
    else (none, cs)
  | [] => (none, cs)

/-- A number. -/
def readNumber (cs : List Char) : Option (Json × List Char) := do
  let (negative, body) := match cs with
    | '-' :: cs => (true, cs)
    | cs => (false, cs)
  let (whole, rest) ← takeWholePart body
  let (places, rest) := takePlaces rest
  let (power, rest) := takePower rest
  if places.isEmpty && power.isNone then
    if Whole.maxDigits < whole.length then none
    else
      let n : Int := Text.numeral whole 0
      return (.int (if negative then -n else n), rest)
  else
    let digits := Text.numeral (whole ++ places) 0
    return (.float (.ofDecimal negative digits (power.getD 0 - places.length)), rest)

mutual

/-- A value inside which `levels` lists and objects may be opened, one in the other. -/
def readValue : (steps levels : Nat) → List Char → Option (Json × List Char)
  | 0, _, _ => none
  | steps + 1, levels, cs =>
    match cs, levels with
    | '"' :: cs, _ => do
      let (w, rest) ← readString cs
      return (.str w, rest)
    | '[' :: _, 0 => none
    | '[' :: cs, levels + 1 =>
      match skipGap cs with
      | ']' :: rest => some (.arr [], rest)
      | cs => readItems steps levels [] cs
    | '\x7b' :: _, 0 => none
    | '\x7b' :: cs, levels + 1 =>
      match skipGap cs with
      | '\x7d' :: rest => some (.obj [], rest)
      | cs => readFields steps levels [] cs
    | 'n' :: 'u' :: 'l' :: 'l' :: rest, _ => some (.null, rest)
    | 't' :: 'r' :: 'u' :: 'e' :: rest, _ => some (.bool true, rest)
    | 'f' :: 'a' :: 'l' :: 's' :: 'e' :: rest, _ => some (.bool false, rest)
    | 'N' :: 'a' :: 'N' :: rest, _ => some (.float .nan, rest)
    | 'I' :: 'n' :: 'f' :: 'i' :: 'n' :: 'i' :: 't' :: 'y' :: rest, _ =>
      some (.float (.infinite false), rest)
    | '-' :: 'I' :: 'n' :: 'f' :: 'i' :: 'n' :: 'i' :: 't' :: 'y' :: rest, _ =>
      some (.float (.infinite true), rest)
    | cs, _ => readNumber cs

/-- The items of an array from the next one on; `before` holds those already read, the last one
    first. -/
def readItems :
    (steps levels : Nat) → (before : List Json) → List Char → Option (Json × List Char)
  | 0, _, _, _ => none
  | steps + 1, levels, before, cs => do
    let (item, rest) ← readValue steps levels cs
    match skipGap rest with
    | ']' :: rest => return (.arr (item :: before).reverse, rest)
    | ',' :: rest => readItems steps levels (item :: before) (skipGap rest)
    | _ => none

/-- The fields of an object from the next one on; `before` holds those already read. -/
def readFields :
    (steps levels : Nat) → (before : Table Wording Json) → List Char → Option (Json × List Char)
  | 0, _, _, _ => none
  | steps + 1, levels, before, cs =>
    match cs with
    | '"' :: cs => do
      let (name, rest) ← readString cs
      match skipGap rest with
      | ':' :: rest =>
        let (value, rest) ← readValue steps levels (skipGap rest)
        let fields := Table.put before name value
        match skipGap rest with
        | '\x7d' :: rest => return (.obj fields, rest)
        | ',' :: rest => readFields steps levels fields (skipGap rest)
        | _ => none
      | _ => none
    | _ => none

end

/-- The value that a text holds, with nothing but gaps around it. Inside of its outermost list or
    object, `inner` more may stand one in the other. A step reads a character or opens the value at
    one, so twice the length is steps enough. -/
def parse (inner : Nat) (cs : List Char) : Option Json := do
  let (value, rest) ← readValue (2 * cs.length + 2) (inner + 1) (skipGap cs)
  if (skipGap rest).isEmpty then some value else none

end Gamebook.Json

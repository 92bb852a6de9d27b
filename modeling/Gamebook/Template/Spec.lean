import Gamebook.Number.Layout
import Gamebook.Number.Whole
import Gamebook.Wording

/-!
# Field specifications

A field of a template may say how its value is laid out: fill and alignment, sign, width, grouping
of digits, precision and type, in this order and each of them optional. `Spec.parse` reads such a
specification; `formatText`, `formatInt` and `formatFloat` lay a value out, or give `none` where the
specification does not suit the value.
-/

namespace Gamebook.Template

/-- Where the filling of a field goes. -/
inductive Align where
  /-- After the value. -/
  | left
  /-- Before the value. -/
  | right
  /-- On both sides, the odd one after the value. -/
  | center
  /-- Between the sign and the digits. -/
  | inside
  deriving DecidableEq, Repr

/-- The alignment that a symbol stands for. -/
def Align.ofSymbol? : Symbol → Option Align
  | .char '<' => some .left
  | .char '>' => some .right
  | .char '^' => some .center
  | .char '=' => some .inside
  | _ => none

/-- How a field is laid out. What is not given is `none` or `false`. -/
structure Spec where
  fill : Option Symbol := none
  align : Option Align := none
  sign : Option Char := none
  /-- A negative number that rounds to zero loses its sign. -/
  plainZero : Bool := false
  alternate : Bool := false
  /-- A zero stands before the width. -/
  zeroPadded : Bool := false
  width : Option Nat := none
  grouping : Option Char := none
  precision : Option Nat := none
  type : Option Char := none
  deriving DecidableEq, Repr

namespace Spec

/-- The fill symbol and the alignment at the start of a specification. Any symbol may fill, even one
    that stands for an alignment itself. -/
def takeAlign : Wording → (Option Symbol × Option Align) × Wording
  | [] => ((none, none), [])
  | [a] =>
    match Align.ofSymbol? a with
    | some align => ((none, some align), [])
    | none => ((none, none), [a])
  | f :: a :: rest =>
    match Align.ofSymbol? a, Align.ofSymbol? f with
    | some align, _ => ((some f, some align), rest)
    | none, some align => ((none, some align), a :: rest)
    | none, none => ((none, none), f :: a :: rest)

/-- A single character at the start, if it is one of those asked for. -/
def takeOne (wanted : Char → Bool) : List Char → Option Char × List Char
  | c :: cs => if wanted c then (some c, cs) else (none, c :: cs)
  | [] => (none, [])

/-- The largest width or precision that can be written. -/
def maxCount : Nat := 0x7fffffffffffffff

/-- The largest width, and the largest precision of a number, that is laid out. -/
def maxLaidOut : Nat := 0x7fffffff

/-- Whether a specification asks for a width that is not laid out. -/
def tooWide (width : Option Nat) : Bool := decide (maxLaidOut < width.getD 0)

/-- A number in digits of any script. Fails for one beyond `maxCount`. -/
def takeCount (cs : List Char) : Option (Option Nat × List Char) :=
  match cs.span Text.isDigit with
  | ([], _) => some (none, cs)
  | (ds, rest) =>
    let n := Text.numeral ds 0
    if n ≤ maxCount then some (some n, rest) else none

/-- The precision after a point, which must be followed by a number. -/
def takePrecision : List Char → Option (Option Nat × List Char)
  | '.' :: cs =>
    match takeCount cs with
    | some (some n, rest) => some (some n, rest)
    | _ => none
  | cs => some (none, cs)

/-- Reads a specification to its end. -/
def parse (w : Wording) : Option Spec := do
  let ((fill, align), w) := takeAlign w
  let cs ← Wording.chars? w
  let (sign, cs) := takeOne (fun c => c == '+' || c == '-' || c == ' ') cs
  let (plainZero, cs) := takeOne (· == 'z') cs
  let (alternate, cs) := takeOne (· == '#') cs
  let (zero, cs) := takeOne (fun c => c == '0' && fill.isNone) cs
  let (width, cs) ← takeCount cs
  let (comma, cs) := takeOne (· == ',') cs
  let (underscore, cs) := takeOne (· == '_') cs
  if comma.isSome && underscore.isSome then none
  if underscore.isSome && cs.head? == some ',' then none
  let (precision, cs) ← takePrecision cs
  let type ← match cs with
    | [] => some none
    | [c] => some (some c)
    | _ => none
  return {
    fill, align, sign, plainZero := plainZero.isSome, alternate := alternate.isSome,
    zeroPadded := zero.isSome, width, grouping := comma.or underscore, precision, type }

end Spec

/-- A text filled up to a width. Filling inside a sign is not meant for texts and goes first. -/
def fillUp (fill : Symbol) (align : Align) (width : Nat) (w : Wording) : Wording :=
  let missing := width - w.length
  let filling := fun n => List.replicate n fill
  match align with
  | .left => w ++ filling missing
  | .center => filling (missing / 2) ++ w ++ filling (missing - missing / 2)
  | .right | .inside => filling missing ++ w

/-- The symbol that a specification fills with. -/
def Spec.filler (spec : Spec) : Symbol :=
  spec.fill.getD (.char (if spec.zeroPadded then '0' else ' '))

/-- A text in a field. The precision cuts it; signs, grouping and the marks for numbers do not suit
    a text. -/
def formatText (spec : Spec) (w : Wording) : Option Wording :=
  if spec.type.getD 's' != 's' || spec.grouping.isSome || spec.sign.isSome || spec.plainZero ||
      spec.alternate || spec.align == some .inside || Spec.tooWide spec.width then none
  else
    let w := match spec.precision with
      | some n => w.take n
      | none => w
    some (fillUp spec.filler (spec.align.getD .left) (spec.width.getD 0) w)

/-! ## Numbers -/

/-- A number cut into the parts that are laid out apart: whether it is negative, what goes before
    the digits (`0x` and the like), the digits that may be grouped, and what follows them. -/
structure NumberParts where
  negative : Bool
  lead : List Char := []
  digits : List Char
  tail : Wording := []
  deriving DecidableEq, Repr

/-- The sign of a number: a minus, or for other numbers what the specification asks for. -/
def signText (spec : Spec) (negative : Bool) : List Char :=
  if negative then ['-']
  else
    match spec.sign with
    | some '+' => ['+']
    | some ' ' => [' ']
    | _ => []

/-- Digits from the last to the first, with a separator after every `size` of them; `count` have
    gone by since the last one. -/
def separate (separator : Char) (size : Nat) : (count : Nat) → List Char → List Char
  | _, [] => []
  | count, c :: cs =>
    if count = size then separator :: c :: separate separator size 1 cs
    else c :: separate separator size (count + 1) cs

/-- The least count of digits, at least one, that fills a width together with the separators
    between its groups. -/
def digitsFor (size width : Nat) : Nat := width / (size + 1) * size + max (width % (size + 1)) 1

/-- Digits with zeros in front, as many as fill a width, and with their separators. -/
def group (separator : Option Char) (size width : Nat) (digits : List Char) : List Char :=
  let count := match separator with
    | some _ => digitsFor size width
    | none => width
  let digits := List.replicate (count - digits.length) '0' ++ digits
  match separator with
  | some s => (separate s size 0 digits.reverse).reverse
  | none => digits

/-- A number in a field. A zero before the width fills with zeros behind the sign, and zeros behind
    the sign are grouped like digits. -/
def layOutNumber (spec : Spec) (size : Nat) (parts : NumberParts) : Wording :=
  let fill := spec.filler
  let align := spec.align.getD (if spec.zeroPadded then .inside else .right)
  let width := spec.width.getD 0
  let sign := signText spec parts.negative
  let others := sign.length + parts.lead.length + parts.tail.length
  let digits :=
    if parts.digits.isEmpty then []
    else
      let room := if fill == .char '0' && align == .inside then width - others else 0
      group spec.grouping size room parts.digits
  let head := Wording.ofChars (sign ++ parts.lead)
  let body := Wording.ofChars digits ++ parts.tail
  match align with
  | .inside => head ++ List.replicate (width - others - digits.length) fill ++ body
  | _ => fillUp fill align width (head ++ body)

/-- Whether a laid out number without its sign shows nothing but zeros before its power of ten. -/
def showsZero (cs : List Char) : Bool :=
  (cs.takeWhile fun c => c != 'e' && c != 'E').all fun c => c == '0' || c == '.'

/-- The precision of a number with a fraction when none is given. -/
def usualPrecision : Nat := 6

/-- A number with a fraction in a field. The null character as type is the same as none. -/
def formatFloat (spec : Spec) (x : Binary64) : Option Wording := do
  let precision := spec.precision.getD usualPrecision
  if Spec.maxLaidOut < precision || Spec.tooWide spec.width then none
  let (layout, percent) ← match spec.type with
    | none | some '\x00' => match spec.precision with
      | none => some (Binary64.Layout.shortest, false)
      | some n => some (.general n true, false)
    | some 'e' | some 'E' => some (.scientific precision, false)
    | some 'f' | some 'F' => some (.fixed precision, false)
    | some 'g' | some 'G' => some (.general precision false, false)
    | some 'n' => if spec.grouping.isSome then none else some (.general precision false, false)
    | some '%' => some (.fixed precision, true)
    | some _ => none
  let capital := spec.type == some 'E' || spec.type == some 'F' || spec.type == some 'G'
  let x := if percent then x.timesHundred else x
  let shown := x.layOut layout spec.alternate capital
  let (negative, shown) := match shown with
    | '-' :: cs => (true, cs)
    | cs => (false, cs)
  let negative := negative && !(spec.plainZero && showsZero shown)
  let shown := if percent then shown ++ ['%'] else shown
  let (digits, tail) := shown.span Char.isDigit
  return layOutNumber spec 3 { negative, digits, tail := Wording.ofChars tail }

/-- Digits in a base with the mark that tells it. -/
def inBase (spec : Spec) (mark : Char) (base : Nat) (n : Int) : Option Wording :=
  if spec.grouping == some ',' then none
  else
    let lead := if spec.alternate then ['0', mark] else []
    let digits := Nat.toDigits base n.natAbs
    let digits := if mark == 'X' then digits.map Char.toUpper else digits
    some (layOutNumber spec 4 { negative := n < 0, lead, digits })

/-- A whole number in a field. Types of numbers with a fraction lay it out as such a number. -/
def formatInt (spec : Spec) (n : Int) : Option Wording :=
  let type := spec.type.getD 'd'
  if type == 'e' || type == 'E' || type == 'f' || type == 'F' || type == 'g' || type == 'G' ||
      type == '%' then
    let x := Binary64.ofInt n
    if x.isFinite then formatFloat spec x else none
  else if spec.precision.isSome || spec.plainZero || Spec.tooWide spec.width then none
  else
    match type with
    | 'd' => do
      let _ ← Whole.write? n
      return layOutNumber spec 3 { negative := n < 0, digits := Nat.toDigits 10 n.natAbs }
    | 'n' => do
      let _ ← Whole.write? n
      if spec.grouping.isSome then none
      return layOutNumber spec 3 { negative := n < 0, digits := Nat.toDigits 10 n.natAbs }
    | 'b' => inBase spec 'b' 2 n
    | 'o' => inBase spec 'o' 8 n
    | 'x' => inBase spec 'x' 16 n
    | 'X' => inBase spec 'X' 16 n
    | 'c' =>
      if spec.sign.isSome || spec.alternate || spec.grouping.isSome || n < 0 then none
      else if n.natAbs ≤ Symbol.maxNumber then
        let tail := [Symbol.ofNumber n.natAbs]
        some (layOutNumber spec 3 { negative := false, digits := [], tail })
      else none
    | _ => none

end Gamebook.Template

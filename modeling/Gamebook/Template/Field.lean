import Gamebook.Text.Digit
import Gamebook.Wording

/-!
# Templates

A template is a text with fields in braces; a brace of the text itself is written twice. A field
names its value, may ask for it to be spelled out by a mark after `!`, and may have a specification
after `:`, in which further fields may stand.

`pieces` cuts a template into plain symbols and fields with a machine that takes one symbol at a
time, so what it makes of a text does not depend on what comes before a point where it is back
between pieces.
-/

namespace Gamebook.Template

/-- A field as it is written: the name of its value, the mark, and the specification. -/
structure Field where
  name : Wording
  mark : Option Symbol := none
  spec : Wording := []
  deriving DecidableEq, Repr

/-- A plain symbol or a field. -/
inductive Piece where
  | plain (s : Symbol)
  | field (f : Field)
  deriving DecidableEq, Repr

/-- Where the machine stands between two symbols. What it has read of a field is kept with the last
    symbol first. -/
inductive State where
  /-- Between pieces. -/
  | between
  /-- After an opening brace. -/
  | opened
  /-- After a closing brace that needs a second one. -/
  | closed
  /-- In the name of a field; between brackets any symbol may stand. -/
  | name (read : Wording) (bracket : Bool)
  /-- After the `!` of a field. -/
  | mark (name : Wording)
  /-- After the mark of a field. -/
  | marked (name : Wording) (mark : Symbol)
  /-- In the specification of a field, inside `depth` further braces. -/
  | spec (name : Wording) (mark : Option Symbol) (read : Wording) (depth : Nat)
  deriving DecidableEq, Repr

/-- The opening brace. -/
def opening : Symbol := .char '\x7b'

/-- The closing brace. -/
def closing : Symbol := .char '\x7d'

/-- A symbol in the name of a field. -/
def stepName (read : Wording) (bracket : Bool) (s : Symbol) : Option (State × List Piece) :=
  if bracket then some (.name (s :: read) (s != .char ']'), [])
  else if s = opening then none
  else if s = closing then some (.between, [.field { name := read.reverse }])
  else if s = .char ':' then some (.spec read none [] 0, [])
  else if s = .char '!' then some (.mark read, [])
  else some (.name (s :: read) (s == .char '['), [])

/-- A symbol in the specification of a field. -/
def stepSpec (name : Wording) (mark : Option Symbol) (read : Wording) (depth : Nat) (s : Symbol) :
    State × List Piece :=
  if s = closing then
    match depth with
    | 0 => (.between, [.field { name := name.reverse, mark, spec := read.reverse }])
    | depth + 1 => (.spec name mark (s :: read) depth, [])
  else if s = opening then (.spec name mark (s :: read) (depth + 1), [])
  else (.spec name mark (s :: read) depth, [])

/-- One symbol: where the machine stands after it, and the pieces that it completes. -/
def step : State → Symbol → Option (State × List Piece)
  | .between, s =>
    if s = opening then some (.opened, [])
    else if s = closing then some (.closed, [])
    else some (.between, [.plain s])
  | .opened, s => if s = opening then some (.between, [.plain s]) else stepName [] false s
  | .closed, s => if s = closing then some (.between, [.plain s]) else none
  | .name read bracket, s => stepName read bracket s
  | .mark name, s => some (.marked name s, [])
  | .marked name mark, s =>
    if s = closing then some (.between, [.field { name := name.reverse, mark := some mark }])
    else if s = .char ':' then some (.spec name (some mark) [] 0, [])
    else none
  | .spec name mark read depth, s => some (stepSpec name mark read depth s)

/-- The pieces of a text from a state on. The text must end between pieces. -/
def piecesFrom : State → Wording → Option (List Piece)
  | .between, [] => some []
  | _, [] => none
  | state, s :: rest => do
    let (state, done) ← step state s
    let rest ← piecesFrom state rest
    return done ++ rest

/-- The pieces of a template, or `none` if its braces or fields are not in order. -/
def pieces (w : Wording) : Option (List Piece) := piecesFrom .between w

/-! ## Names of values -/

/-- A step from a value to a part of it. -/
inductive Access where
  /-- A property, after a point. -/
  | property (name : Wording)
  /-- An entry, in brackets. -/
  | entry (key : Wording)
  deriving DecidableEq, Repr

/-- Where the reading of accesses stands: before one, in a property or in brackets. -/
inductive AccessState where
  | before
  | property (read : Wording)
  | entry (read : Wording)
  deriving DecidableEq, Repr

/-- The accesses of a text from a state on. None of them is empty. -/
def accessesFrom : AccessState → Wording → Option (List Access)
  | .before, [] => some []
  | .property read, [] => if read.isEmpty then none else some [.property read.reverse]
  | .entry _, [] => none
  | .before, s :: rest =>
    if s = .char '.' then accessesFrom (.property []) rest
    else if s = .char '[' then accessesFrom (.entry []) rest
    else none
  | .property read, s :: rest =>
    if s = .char '.' ∨ s = .char '[' then
      if read.isEmpty then none
      else do
        let rest ← accessesFrom (if s = .char '.' then .property [] else .entry []) rest
        return .property read.reverse :: rest
    else accessesFrom (.property (s :: read)) rest
  | .entry read, s :: rest =>
    if s = .char ']' then
      if read.isEmpty then none
      else do
        let rest ← accessesFrom .before rest
        return .entry read.reverse :: rest
    else accessesFrom (.entry (s :: read)) rest

/-- The number that a text of digits spells, and `none` for any other text. -/
def index? (w : Wording) : Option Nat := do
  let cs ← Wording.chars? w
  if !cs.isEmpty && cs.all Text.isDigit then some (Text.numeral cs 0) else none

/-- The largest number that may stand in a name. -/
def maxIndex : Nat := 0x7fffffffffffffff

/-- The digits at the start of a text. -/
def leadingDigits (w : Wording) : List Char :=
  (w.takeWhile fun s => s.char?.any Text.isDigit).filterMap Symbol.char?

/-- Whether a text starts with a number that is too large for a name. -/
def spellsTooMuch (w : Wording) : Bool := decide (maxIndex < Text.numeral (leadingDigits w) 0)

/-- Whether an access asks for an entry whose name starts with too large a number. -/
def Access.isTooFar : Access → Bool
  | .property _ => false
  | .entry key => spellsTooMuch key

/-- The first part of a field's name and the accesses that follow it. Its numbers must not be too
    large. -/
def splitName (name : Wording) : Option (Wording × List Access) := do
  let (first, rest) := name.span fun s => s != .char '.' && s != .char '['
  let accesses ← accessesFrom .before rest
  if spellsTooMuch first || accesses.any Access.isTooFar then none
  return (first, accesses)

end Gamebook.Template

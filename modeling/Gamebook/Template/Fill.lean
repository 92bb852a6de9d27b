import Gamebook.Template.Reach

/-!
# Filling in templates

`fill` puts values into the fields of a template. Fields without a name take the values in order;
fields with a number take the value at that place; one template does not mix the two. A field may
reach into its value, and its specification may hold fields of its own, one level deep.

A template that cannot be filled gives `none`, whatever the reason.
-/

namespace Gamebook.Template

/-- How the fields of a template have named their values so far. -/
inductive Numbering where
  /-- No field has taken a value yet. -/
  | fresh
  /-- Fields take the values in order; the next one takes the value at this place. -/
  | inOrder (next : Nat)
  /-- Fields give the place of their value. -/
  | byPlace
  deriving DecidableEq, Repr

/-- The place of the value that a field's first name means. -/
def Numbering.place? (numbering : Numbering) (first : Wording) : Option (Nat × Numbering) :=
  match first, index? first, numbering with
  | [], _, .fresh => some (0, .inOrder 1)
  | [], _, .inOrder next => some (next, .inOrder (next + 1))
  | [], _, .byPlace => none
  | _, some i, .fresh => some (i, .byPlace)
  | _, some i, .byPlace => some (i, .byPlace)
  | _, some _, .inOrder _ => none
  | _, none, _ => none

variable (S : Surroundings)

/-- Fills in one field. `expand` fills in the fields of its specification. -/
def fillField (expand : Wording → Numbering → Option (Wording × Numbering)) (args : List Arg)
    (f : Field) (numbering : Numbering) : Option (Wording × Numbering) := do
  let (first, accesses) ← splitName f.name
  let (place, numbering) ← numbering.place? first
  let arg ← args[place]?
  let arg ← arg.follow? S accesses
  let arg ← arg.marked? S f.mark
  let (spec, numbering) ← if f.spec.contains opening then expand f.spec numbering
    else some (f.spec, numbering)
  let shown ← arg.format? S spec
  return (shown, numbering)

/-- Fills in the pieces of a template one after the other. -/
def fillPieces (expand : Wording → Numbering → Option (Wording × Numbering)) (args : List Arg) :
    List Piece → Numbering → Option (Wording × Numbering)
  | [], numbering => some ([], numbering)
  | .plain s :: rest, numbering => do
    let (shown, numbering) ← fillPieces expand args rest numbering
    return (s :: shown, numbering)
  | .field f :: rest, numbering => do
    let (shown, numbering) ← fillField S expand args f numbering
    let (others, numbering) ← fillPieces expand args rest numbering
    return (shown ++ others, numbering)

/-- Fills in a text whose specifications may hold fields down to a depth. -/
def fillTo (args : List Arg) : (depth : Nat) → Wording → Numbering → Option (Wording × Numbering)
  | 0, _, _ => none
  | depth + 1, w, numbering => do fillPieces S (fillTo args depth) args (← pieces w) numbering

/-- Fills in a template. -/
def fill (template : Wording) (args : List Arg) : Option Wording := do
  let (shown, _) ← fillTo S args 2 template .fresh
  return shown

end Gamebook.Template

import Gamebook.Held

/-!
# Routines

A routine of the program or of the library as its listing has it: what it takes, holds, mentions and
knows.
-/

namespace Gamebook

/-- A routine with a listing. -/
structure Routine where
  name : String
  /-- The part of the library that it belongs to, if it is not a routine of the program. -/
  part : Option String := none
  /-- What it is defined within. -/
  within : Option String := none
  /-- The line on which it starts. -/
  firstLine : Nat
  parameters : List String := []
  /-- How many of the parameters are given by their places only. -/
  placeOnly : Nat := 0
  /-- The parameters that are given by their names only. -/
  named : List String := []
  /-- The name for all further arguments, if it takes any number of them. -/
  others : Option String := none
  /-- The name for all further arguments that are given by name, if it takes any number of them. -/
  rest : Option String := none
  /-- The names of the values it holds besides its arguments. -/
  kept : List String := []
  /-- The names that it shares with routines within it. -/
  cells : List String := []
  /-- The names that it shares with the routine it is within. -/
  outer : List String := []
  /-- What the last parameters stand for if they are left out. -/
  defaults : List Held := []
  /-- What the parameters that are given by name stand for if they are left out. -/
  namedDefaults : List (String × Held) := []
  /-- The names that it mentions and does not hold, in the order of their first mention. -/
  mentioned : List String := []
  /-- The constants that it mentions. -/
  constants : List Held := []
  /-- How many values it needs at a time to work with. -/
  depth : Nat := 0
  /-- Its traits as bits of a number, if they are not those that its parameters tell. -/
  traits : Option Nat := none

namespace Routine

/-- The name of a routine with what it is defined within. -/
def fullName (r : Routine) : String :=
  match r.within with
  | some outside => outside ++ "." ++ r.name
  | none => r.name

/-- The key of a routine: its full name, after the part of the library that it belongs to. -/
def key (r : Routine) : String :=
  match r.part with
  | some part => part ++ "." ++ r.fullName
  | none => r.fullName

/-- The names of everything that a routine can hold, in their order. -/
def names (r : Routine) : List String :=
  r.parameters ++ r.named ++ r.others.toList ++ r.rest.toList ++ r.kept

/-- The description of a routine: its first constant, if that is a text. -/
def note (r : Routine) : Held :=
  match r.constants.head? with
  | some (.value (.str w)) => .value (.str w)
  | _ => .null

/-- The traits of a routine as bits of a number. Two bits tell that it takes any number of
    arguments, by place or by name. -/
def allTraits (r : Routine) : Nat :=
  r.traits.getD (3 + (if r.others.isSome then 4 else 0) + (if r.rest.isSome then 8 else 0))

end Routine

end Gamebook

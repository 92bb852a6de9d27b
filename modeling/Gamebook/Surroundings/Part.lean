import Gamebook.Held.Things
import Gamebook.Routine

/-!
# Parts of the library

A part of the library has a name, a description, values, kinds and routines. `Library` lists the
parts there are.
-/

namespace Gamebook.Library

/-- A part of the library. -/
structure Part where
  name : String
  /-- The part that it is in. -/
  package : String := ""
  /-- What is shown of its place. -/
  place : String := " (built-in)"
  note : Option String := none
  /-- The names of its kinds. -/
  kinds : List String := []
  entries : List (String × Held) := []
  routines : List Routine := []

/-- A tool of a part, by its name. -/
def tool (part name : String) : String × Held := (name, .tool (.plain part name))

/-- Routines as routines of a part. -/
def inPart (name : String) (routines : List Routine) : List Routine :=
  routines.map fun r => { r with part := some name }

/-- A name without the names of what it is within. -/
def lastName (name : String) : String :=
  String.ofList ((name.toList.reverse.takeWhile (· != '.')).reverse)

namespace Part

/-- A part spelled out. -/
def text (p : Part) : List Char :=
  ("<module '" ++ p.name ++ "'" ++ p.place ++ ">").toList

/-- Everything that a part has, by its names. -/
def contents (p : Part) : List (String × Held) :=
  [("__name__", .text p.name)] ++ (p.note.map fun s => ("__doc__", .text s)).toList ++
    [("__package__", .text p.package)] ++ p.kinds.map (fun k => (lastName k, .kind k)) ++
    p.entries ++ (p.routines.filter (·.within.isNone)).map fun r => (r.name, .routine r.key)

/-- The name of the listing of a part's routines, if it is shown. -/
def listing? (p : Part) : Option String :=
  if p.place = " (frozen)" then some ("<frozen " ++ p.name ++ ">") else none

end Part

end Gamebook.Library

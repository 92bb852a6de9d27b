import Gamebook.Steps
import Gamebook.Surroundings.Part
import Gamebook.Template.Kind

/-!
# The surroundings of the program

A field of a template may reach from a value to its kind and the members of the kind, and from a
fault through the frames of its trail to routines and to the library. What it finds there is not of
the program's making. `Surroundings` lists it: the kinds of values, the parts of the library, and
the routines as their listing has them. Phrases are filled in in any surroundings, and what is not
listed is not found. `Surroundings.standard` lists what the program usually runs in: the kinds of
its values and faults in full, and of the library a few names.
-/

namespace Gamebook

open Template Library

/-- What a field can reach besides the values that it is given. -/
structure Surroundings where
  kinds : List Kind := []
  parts : List Part := []
  /-- The names of the parts that the program takes up, in their order. -/
  taken : List String := []
  /-- The routines of the program. -/
  routines : List Routine := []
  /-- The program as a whole. -/
  program : Routine := { name := "<module>", firstLine := 1 }

namespace Surroundings

instance : Inhabited Surroundings := ⟨{}⟩

variable (S : Surroundings)

/-! ## Kinds and members -/

/-- The kind of a name. -/
def kind? (name : String) : Option Kind := S.kinds.find? (·.name == name)

/-- The name of a kind where a member is told as taken from a value of it. Kinds that a listing
    makes leave out their home: their traits have the bit of made kinds, and not that of fixed
    ones. -/
def givenName (name : String) : String :=
  match S.kind? name with
  | some k => if k.measures.traits / 0x100 % 4 = 2 then shortName name else name
  | none => name

/-- The names of a kind and of its ancestors, from the kind itself on. -/
def lineage (name : String) : List String :=
  match S.kind? name with
  | some k => k.name :: k.ancestors
  | none => []

/-- The member of a name that values of a kind have. A kind is asked first, then its ancestors from
    the nearest on, and the first that has a member of the name decides. -/
def member? (kindName name : String) : Option Member :=
  (S.lineage kindName).findSome? fun ancestor => (S.kind? ancestor).bind (·.own? name)

/-- A member is found under its own name. -/
theorem name_of_member? {S : Surroundings} {kindName name : String} {m : Member}
    (h : S.member? kindName name = some m) : m.name = name := by
  obtain ⟨ancestor, -, h⟩ := List.exists_of_findSome?_eq_some h
  obtain ⟨k, -, h⟩ := Option.bind_eq_some_iff.1 h
  obtain ⟨e, he, rfl⟩ := Option.map_eq_some_iff.1 h
  show e.name = name
  simpa using List.find?_some he

/-! ## The library and routines -/

/-- The part of the library of a name. -/
def part? (name : String) : Option Part := S.parts.find? (·.name == name)

/-- Everything that the part of a name has. -/
def contents (name : String) : List (String × Held) := ((S.part? name).map (·.contents)).getD []

/-- The part that every routine knows. -/
def known : List (String × Held) := S.contents "builtins"

/-- The routine of a key, of the program or of the library. -/
def routine? (key : String) : Option Routine :=
  (S.program :: S.routines ++ S.parts.flatMap (·.routines)).find? (·.key == key)

/-- Everything that the routines of the program share when a report is made, in its order: the parts
    of the library, the values, and the routines themselves. -/
def globals (r : Report) : List (String × Held) :=
  [("__name__", .text r.name), ("__doc__", .null)] ++
    S.taken.map (fun name => (name, .part name)) ++ r.shared ++
    S.routines.map fun work => (work.name, .routine work.name)

/-- What a routine shares with others: what its part of the library has, or what the routines of the
    program share. -/
def sharedWith (r : Report) (work : Routine) : List (String × Held) :=
  match work.part with
  | some part => S.contents part
  | none => S.globals r

/-- The values of a step in the order of their names. -/
def ordered (s : Step) : List (String × Held) :=
  ((S.routine? s.routine).map (·.names)).getD [] |>.filterMap fun name =>
    (Table.get? s.held name).map fun h => (name, h)

/-- What a step of a report holds. The program as a whole holds what its routines share. -/
def heldAt (r : Report) (place : Nat) (step : Step) : List (String × Held) :=
  if place = 0 then S.globals r else S.ordered step

end Surroundings

end Gamebook

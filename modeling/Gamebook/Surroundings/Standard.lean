import Gamebook.Surroundings
import Gamebook.Surroundings.Kinds
import Gamebook.Surroundings.Library
import Gamebook.Surroundings.Listing

/-!
# The standard surroundings

What the program usually runs in: the kinds, the parts of the library and the routines that are
listed in `Surroundings/Kinds`, `Surroundings/Library` and `Surroundings/Listing`.
-/

namespace Gamebook.Surroundings

/-- The surroundings that the program usually runs in. -/
def standard : Surroundings where
  kinds := Template.catalogue
  parts := Library.parts
  taken := Library.taken
  routines := Routine.all
  program := Routine.program

example : standard.kinds.all (fun k => k.ancestors.all fun a => (standard.kind? a).isSome) := by
  decide +kernel
example : (standard.member? "bool" "__add__").map (·.owner) = some "int" := by decide +kernel

end Gamebook.Surroundings

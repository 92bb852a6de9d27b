import Gamebook.Held

/-!
# Trails

A fault leaves a trail: the steps through which it came, from the outermost inward. A step is a
routine of the program, by its name, a line of the program's listing, and the values that the
routine held there under their names. A session reports a fault with its trail, and a language pack
may ask for any part of it.
-/

namespace Gamebook

/-- A step on the way to a fault. -/
structure Step where
  /-- The key of the routine. -/
  routine : String
  line : Nat
  /-- The place in the code of the routine, counted in bytes, if it is known. -/
  place : Option Nat := none
  held : Table String Held := []

namespace Step

/-- A step with further values. -/
def holding (s : Step) (held : Table String Held) : Step := { s with held := held ++ s.held }

end Step

/-- A fault with its trail so far. -/
structure Mishap where
  fault : Fault
  trail : List Step := []

namespace Mishap

/-- A mishap seen from further out. -/
def through (m : Mishap) (steps : List Step) : Mishap := { m with trail := steps ++ m.trail }

/-- A mishap with further values in its outermost step. -/
def holding (m : Mishap) (held : Table String Held) : Mishap :=
  { m with trail := m.trail.modifyHead (·.holding held) }

end Mishap

/-- A fault as it is told: with its trail, the name under which the program runs, and the values
    that its routines share. -/
structure Report where
  fault : Fault
  name : String := ""
  trail : List Step := []
  shared : Table String Held := []

end Gamebook

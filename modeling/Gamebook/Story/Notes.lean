import Gamebook.Steps

/-!
# Notes on a story

What a report of a fault tells about a story: how many lines have gone by, and the values that were
last of each name. A story plays the same whatever its notes are.
-/

namespace Gamebook.Story

/-- What is noted of a story that is being played. -/
structure Notes where
  /-- How many lines have gone by. -/
  passed : Nat := 0
  held : Table String Held := []

namespace Notes

/-- Notes a value in the place of an older one of the name. -/
def put (n : Notes) (name : String) (h : Held) : Notes := { n with held := n.held.put name h }

/-- Goes on to the next line. -/
def next (n : Notes) : Notes := { n with passed := n.passed + 1 }

/-- Notes a line that stands outside of blocks. -/
def line (n : Notes) (line : List Char) : Notes := n.put "line" (.chars line)

/-- The pattern of a menu. -/
def menuPattern : String := "select\\((.*?)\\)"

/-- Notes a menu, given its line and what follows the opening parenthesis there, its options, and
    the number that was chosen. -/
def menu (n : Notes) (line cs : List Char) (options : List String) (number : Option Nat) : Notes :=
  let inside := cs.takeWhile (· != ')')
  let start := line.length - cs.length
  let stop := start + inside.length
  let n := n.put "match" (.found menuPattern line (0, stop + 1) [(start, stop)])
  let n := n.put "options_str" (.chars inside)
  let n := n.put "options" (.value (.arr (options.map fun (option : String) => .str option)))
  match number with
  | some number => (n.put "choice" (.int number)).put "found_block" (.bool false)
  | none => n.put "choice" .null

/-- Notes a line that only starts like a menu. -/
def noMenu (n : Notes) : Notes := n.put "match" .null

/-- Notes the header of a block, and whether the block was looked for. -/
def header (n : Notes) (number : Int) (found : Bool) : Notes :=
  let n := n.put "block_num" (.int number)
  if found then n.put "found_block" (.bool true) else n

/-- Notes the result of a command. -/
def result (n : Notes) (won : Option Bool) : Notes :=
  n.put "result" ((won.map Held.bool).getD .null)

/-- Everything that is noted. -/
def all (n : Notes) : Table String Held := ("i", .int n.passed) :: n.held

end Notes

end Gamebook.Story

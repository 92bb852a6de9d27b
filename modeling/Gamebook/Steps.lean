import Gamebook.Held.Things
import Gamebook.Trail

/-!
# The steps of a trail

The lines of the program's listing at which its routines can fail, by the numbers that reports of
faults give. Nothing else depends on them.
-/

namespace Gamebook

namespace Step

/-- A routine at a line, and at a place in its code, with what it holds there. -/
def here (routine : String) (line place : Nat) (held : Table String Held) : Step where
  routine := routine
  line := line
  place := some place
  held := held

/-- The line on which the prompt tells a fault. -/
def tellingLine : Nat := 578

/-- The place in the code of the prompt where it tells a fault. -/
def tellingPlace : Nat := 2130

/-- The program as a whole, where it starts the prompt. -/
def program : Step := here "<module>" 582 208 []

/-- The prompt, in the command to run a story. -/
def promptRun : Step := here "main" 549 1174 []

/-- The prompt, in the command to list the stories. -/
def promptList : Step := here "main" 556 1422 []

/-- The prompt, when it shows how to run a story. -/
def promptExample : Step := here "main" 565 1732 []

/-- The list of stories, when the folder cannot be read. -/
def listStories : Step :=
  here "list_txr_files" 494 200 [("files_found", .bool false)]

/-- A story, when its file cannot be opened. -/
def openStory (held : Table String Held) : Step := here "run_file" 413 640 held

/-- A story, when its file is open but no text. -/
def readStory (held : Table String Held) : Step := here "run_file" 414 682 held

/-- The reading of bytes. -/
def decode (content : List UInt8) : Step where
  routine := "codecs.BufferedIncrementalDecoder.decode"
  line := 322
  held :=
    [("self", .decoder), ("input", .bytes content), ("final", .bool true), ("data", .bytes content)]

/-- A story, when the number of a block cannot be read. -/
def storyHeader (held : Table String Held) : Step := here "run_file" 448 1426 held

/-- A story, at a line of a block. -/
def storyBlock (held : Table String Held) : Step := here "run_file" 455 1594 held

/-- A story, at a line outside of blocks. -/
def storyLine (held : Table String Held) : Step := here "run_file" 478 2042 held

/-- A line of a story that changes the player. -/
def playerLine (held : Table String Held) : Step := here "execute_command" 378 950 held

/-- A line of a story that starts a fight. -/
def fightLine (held : Table String Held) : Step := here "execute_command" 370 742 held

/-- The player's points, added or set. -/
def playerHp (adds : Bool) (held : Table String Held) : Step :=
  if adds then here "set_player" 290 132 held
  else here "set_player" 292 168 held

/-- The player's damage, added or set. -/
def playerDamage (adds : Bool) (held : Table String Held) : Step :=
  if adds then here "set_player" 295 310 held
  else here "set_player" 297 348 held

/-- The points of a foe. -/
def foeHp (held : Table String Held) : Step := here "fight" 221 24 held

/-- The damage of a foe. -/
def foeDamage (held : Table String Held) : Step := here "fight" 222 54 held

end Step

/-- The steps of a report with the program as a whole before them. -/
def Report.steps (r : Report) : List Step := .program :: r.trail

end Gamebook

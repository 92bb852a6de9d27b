import Gamebook.Command
import Gamebook.Menu
import Gamebook.Story.Notes

/-!
# Stories

A story is a file of lines. Blank lines and lines that start with `#` are left out, and blanks
around a line do not matter. The lines are carried out one after the other.

A line that opens with `select(` is a menu. After a choice the story goes on behind the next line
that is the header of the block with the chosen number, that is, the number and a colon. In a block
menus are not shown; the block ends at the next header, and the story goes on from there.

The lines are played in loops, one inside the other: `playFrom` goes through the story, `seekBlock`
through the lines after a menu, and `playBlock` through the lines of a block. A loop tells how many
lines it has used up, and the one around it goes on behind them.
-/

namespace Gamebook.Story

open Play

/-- A line of a story. -/
abbrev Line := List Char

/-- The lines of a text that are carried out. -/
def lines (cs : List Char) : List Line :=
  ((cs.splitOn '\n').map Text.trim).filter fun line => !line.isEmpty && line.head? != some '#'

/-- The digits of a block's header. -/
def header? (line : Line) : Option (List Char) :=
  match (Text.trimStart line).span Text.isDigit with
  | ([], _) => none
  | (digits, ':' :: rest) => if rest.all Text.isBlank then some digits else none
  | _ => none

/-- Whether a parenthesis follows in a text, and the first one closes. -/
def closesNext (cs : List Char) : Bool :=
  (cs.dropWhile fun c => c != '(' && c != ')').head? == some ')'

/-- The pieces of a text between its commas. A comma after which the next parenthesis closes is part
    of a piece. -/
def splitOptions : List Char → List (List Char)
  | [] => [[]]
  | c :: cs =>
    if c = ',' ∧ closesNext cs = false then [] :: splitOptions cs
    else
      match splitOptions cs with
      | [] => [[c]]
      | piece :: pieces => (c :: piece) :: pieces

/-- The options of a menu, given what follows `select(`: the pieces up to the first closing
    parenthesis. -/
def options? (cs : List Char) : Option (List String) :=
  (Command.cutAt ')' some cs).map fun (inside, _) =>
    (splitOptions inside).map fun piece => String.ofList (Text.trim piece)

/-- What follows `select(` in a line that opens with it. -/
def menu? (line : Line) : Option (List Char) := "select(".toList.isPrefixOf? line

/-- How a stretch of lines has gone: a fight was lost, or so many lines were used up. -/
inductive Stretch where
  | lost
  | used (count : Nat) (notes : Notes)

/-- A stretch with one more line at its start. -/
def Stretch.longer : Stretch → Stretch
  | .lost => .lost
  | .used count notes => .used (count + 1) notes

/-- How many lines stand before the next header. -/
def blockLength (lines : List Line) : Nat :=
  (lines.takeWhile fun line => (header? line).isNone).length

section

-- How a line is carried out, and whether it was a fight that was won.
variable (carry : Line → Play (Option Bool))

/-- Carries out the lines of a block, up to the next header. -/
def playBlock (notes : Notes) : List Line → Play Stretch
  | [] => return .used 0 notes
  | line :: rest =>
    if (header? line).isSome then return .used 0 notes
    else do
      let won ← (carry line).traced fun _ => [.storyBlock notes.all]
      if won = some false then return .lost
      else return (← playBlock (notes.result won).next rest).longer

/-- Looks for the block of a number and plays it. The first `skip` lines are passed over: they
    belong to a block with a larger number. -/
def seekBlock (number : Nat) : (skip : Nat) → Notes → List Line → Play Stretch
  | _, notes, [] => return .used 0 notes
  | skip + 1, notes, _ :: rest => return (← seekBlock number skip notes.next rest).longer
  | 0, notes, line :: rest => do
    match header? line with
    | none => return (← seekBlock number 0 notes.next rest).longer
    | some digits =>
      let n ← (orThrow (readWhole digits)).traced fun _ => [.storyHeader notes.all]
      if n = number then return (← playBlock carry (notes.header n true).next rest).longer
      else
        let skip := if number < n then blockLength rest else 0
        return (← seekBlock number skip (notes.header n false).next rest).longer

/-- Plays lines. Gives `false` if a fight is lost. The first `skip` lines are passed over: they have
    been dealt with. -/
def playFrom : (skip : Nat) → Notes → List Line → Play Bool
  | _, _, [] => return true
  | skip + 1, notes, _ :: rest => playFrom skip notes rest
  | 0, notes, line :: rest => do
    let notes := notes.line line
    match menu? line with
    | some cs =>
      match options? cs with
      | none => playFrom 0 notes.noMenu.next rest
      | some options =>
        let number ← Menu.choose options
        let notes := notes.menu line cs options number
        match number with
        | none => playFrom 0 notes.next rest
        | some number =>
          match ← seekBlock carry number 0 notes.next rest with
          | .lost => return false
          | .used count notes => playFrom count notes rest
    | none =>
      let won ← (carry line).traced fun _ => [.storyLine notes.all]
      if won = some false then return false
      else playFrom 0 (notes.result won).next rest

end

/-- Plays the lines of a story. Gives `false` if a fight is lost. -/
def play (notes : Notes) (lines : List Line) : Play Bool := playFrom Command.run 0 notes lines

/-- The folder of the stories. -/
def folder : String := "games"

/-- Whether a file name is that of a story: it ends in `.txr`, in small letters or capitals. No
    letter beyond ASCII has one of these as its small letter. -/
def isStoryName (name : String) : Bool := ".txr".toList.isSuffixOf (name.toList.map Char.toLower)

/-- The path of a story. A name that starts at the top of the disk is a path by itself. -/
def pathOf (name : String) : String :=
  if name.toList.head? = some '/' then name else folder ++ "/" ++ name

/-- Tells that a name is not that of a story. -/
def refuse (name : String) : Play Unit := do
  tell "invalid_file_ext" [.text name]
  tell "example_usage" []

/-- Takes the mark `sys://` off a name. -/
def withoutMark (name : String) : Play String := do
  match "sys://".toList.isPrefixOf? name.toList with
  | some cs =>
    tell "sys_prefix_removed" []
    return String.ofList cs
  | none => return name

/-- The names of a story and of its file. -/
def names (name path : String) : Table String Held :=
  [("filename", .text name), ("filepath", .text path)]

/-- The trail of a file that cannot be read. -/
def readSteps (name path : String) : Fault → List Step
  | .notText content _ => [.readStory (("f", .file path {}) :: names name path), .decode content]
  | _ => [.openStory (names name path)]

/-- What is noted of a story at its start, given its text with the line ends of the file, and with
    its line ends made alike. -/
def firstNotes (name path : String) (raw text : List Char) (lines : List Line) : Notes where
  held :=
    names name path ++
    [("f", .file path (Text.lineEnds raw)), ("content", .chars text),
     ("lines", .value (.arr (lines.map fun line => .str (.ofChars line))))]

/-- Opens a story. Gives its lines, and what is noted of it at its start, if there is a file. -/
def openStory (name : String) : Play (Option (Notes × List Line)) := do
  if !isStoryName name then
    refuse name
    return none
  else
    let name ← withoutMark name
    ensureFolder folder
    let path := pathOf name
    if !(← get).disk.has path then
      tell "file_not_found" [.text name]
      tell "file_lookup" [.text path]
      return none
    else
      let raw ← (readRaw path).traced (readSteps name path)
      let text := Text.unifyLineEnds raw
      let lines := lines text
      return some (firstNotes name path raw text lines, lines)

/-- Plays a story. Gives a result only if there was a file to play: `false` if a fight was lost. -/
def run (name : String) : Play (Option Bool) := do
  match ← openStory name with
  | none => return none
  | some (notes, lines) => some <$> play notes lines

/-- Shows the stories there are. -/
def list : Play Unit := do
  ensureFolder folder
  tell "available_files" []
  let names ← (listFolder folder).traced fun _ => [.listStories]
  let stories := names.filter isStoryName
  stories.forM fun name => print ("  - " ++ name)
  if stories.isEmpty then
    tell "no_txr_files" []
    tell "no_games_found" []

end Gamebook.Story

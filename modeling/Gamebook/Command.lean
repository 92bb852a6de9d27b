import Gamebook.Battle
import Gamebook.Speech

/-!
# Commands

A line of a story is a command if it opens with `say(`, `fight(` or `player(` and its arguments are
in order. Arguments stand between commas; blanks after a comma are skipped, and an argument ends at
the first mark after which the rest of the command can be read. No argument goes over a line end.
What follows the closing parenthesis does not matter.
-/

namespace Gamebook

/-- A command of a story. -/
inductive Command where
  | say (text name : String) (seconds : Binary64)
  | fight (hp damage name : String)
  | player (hp damage : String)
  deriving DecidableEq, Repr

namespace Command

/-- Cuts a text at the first `mark` after which `next` can read on, unless a line end comes before
    it. -/
def cutAt {β : Type} (mark : Char) (next : List Char → Option β) :
    List Char → Option (List Char × β)
  | [] => none
  | c :: cs =>
    match if c = mark then next cs else none with
    | some b => some ([], b)
    | none =>
      if c = '\n' then none
      else (cutAt mark next cs).map fun (before, b) => (c :: before, b)

/-- The last argument, up to the first closing parenthesis. -/
def lastArgument (cs : List Char) : Option (List Char) :=
  (cutAt ')' some (Text.trimStart cs)).map (·.1)

/-- The places after a point, at least one of them. -/
def takePlaces : List Char → Option (List Char × List Char)
  | '.' :: cs =>
    match cs.span Text.isDigit with
    | ([], _) => none
    | (places, rest) => some (places, rest)
  | cs => some ([], cs)

/-- The pause of a speech as the last argument: digits, perhaps with a point and more digits, and
    the closing parenthesis. -/
def lastPause (cs : List Char) : Option Binary64 := do
  match (Text.trimStart cs).span Text.isDigit with
  | ([], _) => none
  | (whole, rest) =>
    let (places, rest) ← takePlaces rest
    if rest.head? == some ')' then
      some (.ofDecimal false (Text.numeral (whole ++ places) 0) (-(places.length : Int)))
    else none

/-- The arguments of a speech with a pause. -/
def pausedSay (cs : List Char) : Option Command := do
  let (text, name, seconds) ←
    cutAt ',' (fun cs => cutAt ',' lastPause (Text.trimStart cs)) cs
  return .say (String.ofList text) (String.ofList name) seconds

/-- The arguments of a speech without a pause. -/
def plainSay (cs : List Char) : Option Command := do
  let (text, name) ← cutAt ',' lastArgument cs
  return .say (String.ofList text) (String.ofList name) (.zero false)

/-- The arguments of a fight. -/
def fightArguments (cs : List Char) : Option Command := do
  let (hp, damage, name) ← cutAt ',' (fun cs => cutAt ',' lastArgument (Text.trimStart cs)) cs
  return .fight (String.ofList hp) (String.ofList damage) (String.ofList name)

/-- The arguments of a change to the player. -/
def playerArguments (cs : List Char) : Option Command := do
  let (hp, damage) ← cutAt ',' lastArgument cs
  return .player (String.ofList hp) (String.ofList damage)

/-- The command that a line is, if it is one. -/
def parse (line : List Char) : Option Command :=
  let line := Text.trim line
  match "say(".toList.isPrefixOf? line with
  | some cs => (pausedSay cs).or (plainSay cs)
  | none =>
    match "fight(".toList.isPrefixOf? line with
    | some cs => fightArguments cs
    | none =>
      match "player(".toList.isPrefixOf? line with
      | some cs => playerArguments cs
      | none => none

/-- Carries a command out. Only a fight has a result: whether it was won. -/
def perform : Command → Play (Option Bool)
  | .say text name seconds => do
    Gamebook.say text name seconds
    return none
  | .fight hp damage name => some <$> Battle.fight (.text hp) (.text damage) name
  | .player hp damage => do
    setPlayer (.text hp) (.text damage)
    return none

/-- Where the arguments of a command stand in its line, given where the first one starts. Every
    argument has a mark behind it, and all but the first may have blanks before them. -/
def spans (line : List Char) (start : Nat) : List String → List Held.Span
  | [] => []
  | argument :: arguments =>
    let stop := start + argument.length
    let blanks := ((line.drop (stop + 1)).takeWhile Text.isBlank).length
    (start, stop) :: spans line (stop + 1 + blanks) arguments

/-- What a pattern has found in the line of a command. It ends behind the mark of the last
    argument. -/
def found (pattern : String) (line : List Char) (start : Nat) (arguments : List String) : Held :=
  let groups := spans line start arguments
  .found pattern line (0, (groups.getLast?.map (·.2 + 1)).getD start) groups

/-- The pattern of a fight. -/
def fightPattern : String := "fight\\((.*?),\\s*(.*?),\\s*(.*?)\\)"

/-- The pattern of a change to the player. -/
def playerPattern : String := "player\\((.*?),\\s*(.*?)\\)"

/-- The trail of a command that fails. Speeches never do. -/
def steps (line : List Char) : Command → List Step
  | .say .. => []
  | .fight hp damage name =>
    [.fightLine
      [("line", .chars line), ("match", found fightPattern line 6 [hp, damage, name]),
       ("name", .text name), ("hp", .text hp), ("damage", .text damage)]]
  | .player hp damage =>
    [.playerLine
      [("line", .chars line), ("match", found playerPattern line 7 [hp, damage]),
       ("hp", .text hp), ("damage", .text damage)]]

/-- Carries a line out. A line that is no command does nothing. -/
def run (line : List Char) : Play (Option Bool) :=
  match parse line with
  | some command => command.perform.traced fun _ => command.steps (Text.trim line)
  | none => return none

end Command

end Gamebook

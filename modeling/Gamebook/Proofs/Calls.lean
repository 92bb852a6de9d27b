import Gamebook.Prompt

/-!
# Calls from outside

A session is one way to use the program. Another program can call its parts one by one, in any order
and as often as it likes, and every call finds the world as the calls before it have left it. `Call`
names the parts that can be called, and `Call.perform` is what they do.

A call has answers, picks and a time of its own, which are its `Occasion`. A row of calls is a list
of visits; between two of them others may change the disk.
-/

namespace Gamebook

/-- A part of the program that can be called. -/
inductive Call where
  | loadSettings
  | saveSettings
  | loadPacks
  | writeEnglish
  | phrase (key : String) (args : List Template.Arg)
  | help (page : Int)
  | changeLanguage (code : String)
  | say (text name : String) (seconds : Binary64)
  | fight (hp damage : Amount) (name : String)
  | setPlayer (hp damage : Amount)
  | choose (options : List String)
  | command (line : List Char)
  | story (name : String)
  | isStoryName (name : String)
  | listStories
  | session

namespace Call

/-- What is returned after a fight, if there was one. -/
def returned : Option Bool → Json
  | some won => .bool won
  | none => .null

/-- Carries a call out, and gives what it returns. -/
def perform : Call → Play Json
  | .loadSettings => do Settings.load; return .null
  | .saveSettings => do Settings.save; return .null
  | .loadPacks => do Phrasebook.load; return .null
  | .writeEnglish => do Phrasebook.writeEnglish; return .null
  | .phrase key args => Play.phrase key args
  | .help page => do Prompt.help page; return .null
  | .changeLanguage code => Json.bool <$> Prompt.changeLanguage code
  | .say text name seconds => do Gamebook.say text name seconds; return .null
  | .fight hp damage name => Json.bool <$> Battle.fight hp damage name
  | .setPlayer hp damage => do Gamebook.setPlayer hp damage; return .null
  | .choose options => do
    match ← Menu.choose options with
    | some number => return .int number
    | none => return .null
  | .command line => returned <$> Command.run line
  | .story name => returned <$> Story.run name
  | .isStoryName name => return .bool (Story.isStoryName name)
  | .listStories => do Story.list; return .null
  | .session => do Prompt.session; return .null

end Call

/-- When a call is made: what the player will answer, what chance will pick, and the time of day. -/
structure Occasion where
  answers : List Answer := []
  picks : List Int := []
  clock : String := ""

/-- A world in which something is called. The events are those of the call. -/
def World.during (w : World) (occasion : Occasion) : World :=
  { w with
    console := { answers := occasion.answers, picks := occasion.picks }
    clock := occasion.clock }

/-- A call on its occasion, and the disk that it finds if others have changed it since the call
    before. -/
structure Visit where
  called : Call
  occasion : Occasion := {}
  disk : Option Disk := none

namespace World

/-- The world that a visit finds. -/
def before (w : World) (visit : Visit) : World :=
  { w with disk := visit.disk.getD w.disk }.during visit.occasion

/-- The outcome of a visit: what is returned or the fault, and the world after it. -/
def visited (w : World) (visit : Visit) : Except Fault Json × World :=
  visit.called.perform.exec (w.before visit)

/-- The world after visits. -/
def afterVisits (w : World) (visits : List Visit) : World :=
  visits.foldl (fun w visit => (w.visited visit).2) w

end World

end Gamebook

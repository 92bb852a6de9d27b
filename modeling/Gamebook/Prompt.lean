import Gamebook.Phrasebook.Packs
import Gamebook.Settings
import Gamebook.Story

/-!
# The prompt

A session loads its settings and packs, greets the player, and then takes commands until the input
ends or the player breaks off. A fault in a command is told, and the session goes on.
-/

namespace Gamebook.Prompt

open Play

/-- The second page of help: how the commands of a story are written. -/
def storyHelp : List String :=
  ["Command syntax in .txr files:",
   "say(Hello world!, Character, 2) -> Character say: Hello world! (with 2 sec delay)",
   "fight(50, 10, Goblin) -> Start fight with Goblin",
   "player(100, 15) -> Set player health 100 and damage 15",
   "select(Go left, Go right)",
   "    1:",
   "    say(You went left, System, 1)",
   "    2:",
   "    say(You went right, System, 1)"]

/-- The keys of the first page of help. -/
def commandHelp : List String :=
  ["help_title", "run_cmd", "say_cmd", "fight_cmd", "player_cmd", "player_add_cmd", "select_cmd",
   "lang_cmd"]

/-- Shows a page of help. There are two. -/
def help (page : Int) : Play Unit := do
  if page = 1 then
    commandHelp.forM fun key => tell key []
    tell "available_languages" [.value (.str (← get).phrasebook.choices)]
  else if page = 2 then
    storyHelp.forM print

/-- Changes the language to that of a pack, and keeps it in the settings. Tells whether there is
    such a pack. -/
def changeLanguage (code : String) : Play Bool := do
  match Table.get? (← get).phrasebook.languages code with
  | some name =>
    modify fun w => { w with phrasebook := { w.phrasebook with language := .str code } }
    tell "lang_changed" [.value name]
    Settings.save
    return true
  | none =>
    tell "invalid_lang" [.value (.str (← get).phrasebook.choices)]
    return false

/-- The example of how to run a story, with another name in it. -/
def exampleFor (name : List Char) : Play Unit := do
  match ← phrase "example_usage" [] with
  | .str w =>
    print (Wording.shown (Text.replaceAll "game1.txr" (Wording.ofChars name) w))
  | v => fail (.notWords v)

/-- Asks for a page of help and shows it. -/
def askHelp : Play Unit := do
  let page ← askPhrase "help_page" []
  keep "page" (.str page)
  match Whole.read page.toList with
  | .ok n => help n
  | .error _ => tell "enter_number" []

/-- Plays a story from the start, with a player who has nothing yet. -/
def runStory (name : String) : Play Unit := do
  keep "filename" (.str name)
  if !Story.isStoryName name then Story.refuse name
  else
    modifyGame fun g => { g with player := {} }
    let _ ← (Story.run name).traced fun _ => [.promptRun]

/-- Carries out a line typed at the prompt. Command words may be typed in capitals. No letter beyond
    ASCII has one of theirs alone as its small letter, so the small letters of ASCII decide. -/
def command (typed : String) : Play Unit := do
  let cs := Text.trim typed.toList
  keep "cmd" (.str (.ofChars cs))
  let small := cs.map Char.toLower
  if small = "help".toList then askHelp
  else if "run ".toList.isPrefixOf small then runStory (String.ofList (Text.trim (cs.drop 4)))
  else if "lang ".toList.isPrefixOf small then
    let code := String.ofList (Text.trim (cs.drop 5))
    keep "lang_code" (.str code)
    let _ ← changeLanguage code
  else if small = "list".toList then Story.list.traced fun _ => [.promptList]
  else if small = "test".toList then
    let player := (← get).game.player
    tell "test_params" [.int player.hp, .int player.damage]
  else if Story.isStoryName (String.ofList cs) then
    tell "use_run_cmd" []
    (exampleFor cs).traced fun _ => [.promptExample]
  else if !cs.isEmpty then
    tell "unknown_cmd" [.text (String.ofList cs)]
    tell "available_cmds" []

/-- The values of a world that all routines share, by their names in reports. -/
def shared (w : World) : Table String Held :=
  [("player_hp", .int w.game.player.hp), ("player_damage", .int w.game.player.damage),
   ("in_fight", .bool w.game.inFight), ("enemy_hp", .int w.game.foe.hp),
   ("enemy_damage", .int w.game.foe.damage), ("enemy_name", .text w.game.foe.name),
   ("current_language", .value w.phrasebook.language),
   ("languages", .value (.obj w.phrasebook.languages)),
   ("translations", .value (.obj (w.phrasebook.packs.map fun (code, pack) => (code, .obj pack)))),
   ("CONFIG_FILE", .text Settings.file)]

/-- The report of a mishap. The prompt holds what it has at hand, and the fault. -/
def report (m : Mishap) (w : World) : Report :=
  let held := w.desk.map fun (name, v) => (name, Held.value v)
  { fault := m.fault
    name := if w.alone then "__main__" else "engine"
    trail := (m.holding (held ++ [("e", .told)])).trail
    shared := shared w }

/-- What a fault means for the session: the end of the input and an interrupt end it, anything else
    is told. -/
def recover (m : Mishap) : Play (Option Unit) := do
  match m.fault with
  | .endOfInput _ | .interrupted =>
    tell "emulator_shutdown" []
    return some ()
  | _ =>
    tell "error" [.fault (report m (← get))]
    return none

/-- Asks for a command and carries it out. Gives a result when the session is over. -/
def turn : Play (Option Unit) :=
  tryCatch
    (do
      command (← askPhrase "enter_command" [])
      return none)
    recover

/-- Welcomes the player, and tells the current language. -/
def welcome : Play Unit := do
  tell "emulator_title" []
  tell "only_txr" []
  tell "enter_help" []
  tell "enter_list" []
  let book := (← get).phrasebook
  let name ← orThrow (Phrasebook.lookUp book.languages book.language)
  let name := name.getD (.str "English")
  modify fun w => { w with desk := [("lang_name", name)] }
  tell "current_lang" [.value name]

/-- Loads what a session needs, and welcomes the player. -/
def greet : Play Unit := do
  Settings.load
  Phrasebook.load
  ensureFolder Story.folder
  welcome

/-- A whole session. -/
def session : Play Unit := do
  greet
  repeatTurn turn

end Gamebook.Prompt

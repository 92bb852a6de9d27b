import Gamebook.Phrasebook.English
import Gamebook.Routine

/-!
# The routines of the program

The routines of the program by the names that reports of faults give, with what they hold and
mention.
-/

namespace Gamebook.Routine

/-! ## Rows that are worked out within a routine -/

/-- The languages as the help lists them. -/
def helpRow : Held :=
  .inner "<listcomp>" "help.<locals>.<listcomp>" 196 1 [".0", "code", "name"] []
    [.text " (", .text ")"] 6 19 [] []

/-- The languages as they are listed after a wrong choice. -/
def changeLanguageRow : Held :=
  .inner "<listcomp>" "change_language.<locals>.<listcomp>" 333 1 [".0", "code", "name"] []
    [.text " (", .text ")"] 6 19 [] []

/-- The options of a menu. -/
def storyRow : Held :=
  .inner "<listcomp>" "run_file.<locals>.<listcomp>" 433 1 [".0", "opt"] ["strip"]
    [] 4 19 [] []

/-! ## Routines -/

/-- Loads the settings. -/
def loadSettings : Routine where
  name := "load_config"
  firstLine := 22
  kept := ["f", "config"]
  mentioned := ["os", "path", "exists", "CONFIG_FILE", "open", "json", "load", "current_language"]
  constants :=
    [.text "Load configuration including saved language", .text "r", .text "utf-8",
     .texts ["encoding"], .text "language", .null]
  depth := 6

/-- Saves the settings. -/
def saveSettings : Routine where
  name := "save_config"
  firstLine := 36
  kept := ["config", "f"]
  mentioned := ["current_language", "time", "strftime", "open", "CONFIG_FILE", "json", "dump"]
  constants :=
    [.text "Save current configuration", .text "%Y-%m-%d %H:%M:%S",
     .texts ["language", "last_used"], .text "w", .text "utf-8", .texts ["encoding"], .bool false,
     .int 2, .texts ["ensure_ascii", "indent"], .null]
  depth := 7

/-- Loads the language packs. -/
def loadPacks : Routine where
  name := "load_translations"
  firstLine := 50
  kept := ["file", "lang_code", "f", "data", "lang_name"]
  mentioned :=
    ["languages", "translations", "os", "path", "exists", "makedirs",
     "create_default_english_file", "listdir", "endswith", "replace", "open", "join", "json",
     "load", "get", "upper", "load_translations"]
  constants :=
    [.text "Load translations from JSON files in langs directory", .text "langs", .text ".json",
     .text "", .text "r", .text "utf-8", .texts ["encoding"], .text "language_name", .null]
  depth := 7

/-- How many phrases of the English pack stand in a row of names of their own. -/
def namedPhrases : Nat := 7

/-- The phrases of the English pack as the routine that writes it mentions them: names and texts in
    turn, and then the last texts and their names. -/
def englishConstants : List Held :=
  let phrases := Phrasebook.englishPhrases
  let (pairs, last) := phrases.splitAt (phrases.length - namedPhrases)
  pairs.flatMap (fun (name, phrase) => [.text name, .text phrase]) ++
    (last.map fun (_, phrase) => .text phrase) ++ [.texts (last.map (·.1))]

/-- Writes the English pack. -/
def writeEnglish : Routine where
  name := "create_default_english_file"
  firstLine := 88
  kept := ["default_english", "f"]
  mentioned := ["open", "os", "path", "join", "json", "dump"]
  constants :=
    .text "Create default English translation file in langs directory" ::
    englishConstants ++
    
    [.text "langs", .text "en.json", .text "w", .text "utf-8", .texts ["encoding"], .bool false,
     .int 2, .texts ["ensure_ascii", "indent"], .null]
  depth := 9

/-- Finds a phrase and fills it in. -/
def phrase : Routine where
  name := "t"
  firstLine := 173
  parameters := ["key"]
  others := some "args"
  kept := ["text"]
  mentioned := ["current_language", "translations", "format"]
  constants := [.text "Get translation for current language with formatting"]
  depth := 4

/-- Shows a page of help. -/
def help : Routine where
  name := "help"
  firstLine := 186
  parameters := ["page"]
  kept := ["available_langs"]
  mentioned := ["print", "t", "join", "languages", "items"]
  constants :=
    [.null, .int 1, .text "help_title", .text "run_cmd", .text "say_cmd", .text "fight_cmd",
     .text "player_cmd", .text "player_add_cmd", .text "select_cmd", .text "lang_cmd", .text ", ",
     helpRow, .text "available_languages", .int 2, .text "Command syntax in .txr files:",
     .text "say(Hello world!, Character, 2) -> Character say: Hello world! (with 2 sec delay)",
     .text "fight(50, 10, Goblin) -> Start fight with Goblin",
     .text "player(100, 15) -> Set player health 100 and damage 15",
     .text "select(Go left, Go right)", .text "    1:", .text "    say(You went left, System, 1)",
     .text "    2:", .text "    say(You went right, System, 1)"]
  depth := 6

/-- Lets someone say something. -/
def say : Routine where
  name := "say"
  firstLine := 210
  parameters := ["text", "name", "delay"]
  defaults := [.int 0]
  mentioned := ["print", "t", "time", "sleep"]
  constants :=
    [.text "Display character dialogue with delay", .text "dialogue_format", .int 0, .null]
  depth := 7

/-- Fights a foe. -/
def fight : Routine where
  name := "fight"
  firstLine := 217
  parameters := ["enemy_hp_value", "enemy_damage_value", "enemy_name_value"]
  kept := ["choice", "player_action", "enemy_action", "damage_dealt", "damage_taken"]
  mentioned :=
    ["in_fight", "int", "enemy_hp", "enemy_damage", "enemy_name", "print", "t", "upper",
     "player_damage", "player_hp", "input", "random", "choice", "max"]
  constants :=
    [.text "Start fight with enemy", .bool true, .text "fight_title", .text "enemy_stats",
     .text "player_stats", .int 0, .text "player_turn", .text "attack_option",
     .text "block_option", .text "choose_action", .text "1", .text "attack", .text "block",
     .text "player_attacked", .text "enemy_attacked", .int 2, .text "blocked_attack",
     .text "damage_dealt", .text "enemy_blocked", .text "damage_taken", .text "both_blocked",
     .text "enemy_hp", .text "player_hp", .text "victory", .bool false, .text "defeat"]
  depth := 7

/-- Sets the player's points and damage. -/
def setPlayer : Routine where
  name := "set_player"
  firstLine := 284
  parameters := ["hp_value", "damage_value"]
  mentioned := ["isinstance", "str", "startswith", "player_hp", "int", "player_damage"]
  constants := [.text "Set player parameters", .text "add ", .int 4, .null]
  depth := 6

/-- Shows a menu. -/
def menu : Routine where
  name := "select"
  firstLine := 300
  others := some "options"
  kept := ["i", "option", "choice"]
  mentioned := ["len", "print", "t", "enumerate", "int", "input", "ValueError"]
  constants :=
    [.text "Provide choice from multiple options", .int 2, .text "select_min_options", .null,
     .text "choice_title", .int 1, .text ". ", .bool true, .text "choose_option",
     .text "chosen_option", .text "number_range", .text "enter_number"]
  depth := 10

/-- Changes the language. -/
def changeLanguage : Routine where
  name := "change_language"
  firstLine := 322
  parameters := ["lang_code"]
  kept := ["lang_name", "available"]
  mentioned := ["languages", "current_language", "print", "t", "save_config", "join", "items"]
  constants :=
    [.text "Change system language and save to config", .text "lang_changed", .bool true,
     .text ", ", changeLanguageRow, .text "invalid_lang", .bool false]
  depth := 6

/-- Carries out a line of a story. -/
def command : Routine where
  name := "execute_command"
  firstLine := 338
  parameters := ["line"]
  kept := ["match", "text", "name", "delay", "hp", "damage"]
  mentioned :=
    ["strip", "startswith", "re", "match", "group", "float", "say", "fight", "set_player"]
  constants :=
    [.text "Execute single command from line", .null, .text "say(",
     .text "say\\((.*?),\\s*(.*?),\\s*(\\d+(?:\\.\\d+)?)\\)", .int 1, .int 2, .int 3,
     .text "say\\((.*?),\\s*(.*?)\\)", .text "fight(",
     .text "fight\\((.*?),\\s*(.*?),\\s*(.*?)\\)", .text "player(",
     .text "player\\((.*?),\\s*(.*?)\\)"]
  depth := 5

/-- Tells whether a name is that of a story. -/
def isStoryName : Routine where
  name := "validate_txr_filename"
  firstLine := 381
  parameters := ["filename"]
  mentioned := ["lower", "endswith"]
  constants := [.text "Check if file has .txr extension", .text ".txr", .bool false, .bool true]
  depth := 3

/-- Plays a story. -/
def story : Routine where
  name := "run_file"
  firstLine := 388
  parameters := ["filename"]
  kept :=
    ["filepath", "f", "content", "lines", "line", "i", "match", "options_str", "options",
     "choice", "found_block", "block_num", "result"]
  mentioned :=
    ["validate_txr_filename", "print", "t", "startswith", "os", "path", "exists", "makedirs",
     "join", "open", "read", "split", "strip", "append", "len", "re", "match", "group", "select",
     "int", "execute_command"]
  constants :=
    [.text "Execute commands from .txr file in games directory", .text "invalid_file_ext",
     .text "example_usage", .null, .text "sys://", .int 6, .text "sys_prefix_removed",
     .text "games", .text "file_not_found", .text "file_lookup", .text "r", .text "utf-8",
     .texts ["encoding"], .text "\n", .text "#", .int 0, .text "select(",
     .text "select\\((.*?)\\)", .int 1, storyRow, .text ",(?![^()]*\\))", .bool false,
     .text "^\\s*(\\d+):\\s*$", .bool true]
  depth := 7

/-- Shows the stories there are. -/
def listStories : Routine where
  name := "list_txr_files"
  firstLine := 486
  kept := ["files_found", "file"]
  mentioned := ["os", "path", "exists", "makedirs", "print", "t", "listdir", "lower", "endswith"]
  constants :=
    [.text "List all .txr files in games directory", .text "games", .text "available_files",
     .bool false, .text ".txr", .text "  - ", .bool true, .text "no_txr_files",
     .text "no_games_found", .null]
  depth := 5

/-- Takes commands from the player. -/
def prompt : Routine where
  name := "main"
  firstLine := 504
  kept := ["lang_name", "cmd", "page", "filename", "lang_code", "e"]
  mentioned :=
    ["load_config", "load_translations", "os", "path", "exists", "makedirs", "print", "t",
     "languages", "get", "current_language", "input", "strip", "lower", "help", "int",
     "ValueError", "startswith", "validate_txr_filename", "player_hp", "player_damage",
     "run_file", "change_language", "list_txr_files", "endswith", "replace", "KeyboardInterrupt",
     "EOFError", "Exception"]
  constants :=
    [.null, .text "games", .text "emulator_title", .text "only_txr", .text "enter_help",
     .text "enter_list", .text "English", .text "current_lang", .bool true, .text "enter_command",
     .text "help", .text "help_page", .text "enter_number", .text "run ", .int 4,
     .text "invalid_file_ext", .text "example_usage", .int 0, .text "lang ", .int 5, .text "list",
     .text "test", .text "test_params", .text ".txr", .text "use_run_cmd", .text "game1.txr",
     .text "unknown_cmd", .text "available_cmds", .text "emulator_shutdown", .text "error"]
  depth := 7

/-- The routines of the program. -/
def all : List Routine :=
  [loadSettings, saveSettings, loadPacks, writeEnglish, phrase, help, say, fight, setPlayer, menu,
   changeLanguage, command, isStoryName, story, listStories, prompt]

/-- The program as a whole, which takes up its library, sets the shared values, and starts the
    prompt. -/
def program : Routine where
  name := "<module>"
  firstLine := 1
  mentioned :=
    ["random", "re", "os", "time", "json", "player_hp", "player_damage", "in_fight", "enemy_hp",
     "enemy_damage", "enemy_name", "current_language", "languages", "translations", "CONFIG_FILE",
     "load_config", "save_config", "load_translations", "create_default_english_file", "t",
     "help", "say", "fight", "set_player", "select", "change_language", "execute_command",
     "validate_txr_filename", "run_file", "list_txr_files", "main", "__name__"]
  constants :=
    [.int 0, .null, .bool false, .text "", .text "en", .text "engine_config.json",
     .code "load_config", .code "save_config", .code "load_translations",
     .code "create_default_english_file", .code "t", .code "help", .code "say", .code "fight",
     .code "set_player", .code "select", .code "change_language", .code "execute_command",
     .code "validate_txr_filename", .code "run_file", .code "list_txr_files", .code "main",
     .text "__main__", .tuple [.int 0]]
  depth := 2
  traits := some 0

end Gamebook.Routine

import Gamebook.Json.Basic

/-!
# The English pack

The pack that is written when there is no other.
-/

namespace Gamebook.Phrasebook

/-- The title, the prompt and the current language. -/
def englishPrompt : List (String × String) :=
  [("language_name", "English"),
   ("emulator_title", "=== TXR GAME SYSTEM ==="),
   ("only_txr", "System works only with .txr files"),
   ("enter_help", "Enter 'help' for command list"),
   ("enter_list", "Enter 'list' to view available .txr files"),
   ("enter_command", "\n> "),
   ("current_lang", "Current language: \x7b\x7d")]

/-- The first page of help. -/
def englishHelp : List (String × String) :=
  [("help_title", "help - open help page"),
   ("run_cmd", "run [filename.txr] - run game file, e.g.: run game1.txr"),
   ("say_cmd", "say(text, name, delay) - character speaks with delay (seconds)"),
   ("fight_cmd", "fight(hp, damage, name) - start fight with enemy"),
   ("player_cmd", "player(hp, damage) - set player parameters"),
   ("player_add_cmd", "player(add hp, add damage) - modify player parameters"),
   ("select_cmd", "select(option1, option2, ...) - choice from multiple options"),
   ("lang_cmd", "lang [code] - switch language"),
   ("available_languages", "Available languages: \x7b\x7d")]

/-- Fights. -/
def englishFights : List (String × String) :=
  [("fight_title", "=== FIGHT WITH \x7b\x7d ==="),
   ("enemy_stats", "Enemy: \x7b\x7d damage, \x7b\x7d HP"),
   ("player_stats", "Player: \x7b\x7d damage, \x7b\x7d HP"),
   ("player_turn", "--- Player's turn ---"),
   ("attack_option", "1. Attack"),
   ("block_option", "2. Block"),
   ("choose_action", "Choose action (1-2): "),
   ("player_attacked", "You attacked \x7b\x7d and dealt \x7b\x7d damage!"),
   ("enemy_attacked", "\x7b\x7d attacked you and dealt \x7b\x7d damage!"),
   ("blocked_attack", "You attacked \x7b\x7d, but they blocked some damage!"),
   ("damage_dealt", "Dealt \x7b\x7d damage!"),
   ("enemy_blocked", "\x7b\x7d attacked, but you blocked some damage!"),
   ("damage_taken", "Took \x7b\x7d damage!"),
   ("both_blocked", "Both opponents prepared for defense!"),
   ("enemy_hp", "\x7b\x7d: \x7b\x7d HP"),
   ("player_hp", "Player: \x7b\x7d HP"),
   ("victory", "VICTORY! You defeated \x7b\x7d!"),
   ("defeat", "DEFEAT! \x7b\x7d defeated you!")]

/-- Menus and speech. -/
def englishMenus : List (String × String) :=
  [("choice_title", "--- CHOICE ---"),
   ("choose_option", "Choose option (1-\x7b\x7d): "),
   ("chosen_option", "You chose: \x7b\x7d"),
   ("enter_number", "Please enter a number"),
   ("number_range", "Please enter a number from 1 to \x7b\x7d"),
   ("select_min_options", "Error: select must have at least 2 options"),
   ("dialogue_format", "\x7b\x7d say: \x7b\x7d")]

/-- Story files. -/
def englishFiles : List (String × String) :=
  [("invalid_file_ext", "Error: file '\x7b\x7d' must have .txr extension"),
   ("example_usage", "Example: run game1.txr"),
   ("file_not_found", "Error: file '\x7b\x7d' not found in 'games' directory"),
   ("file_lookup", "Looked for file at: \x7b\x7d"),
   ("sys_prefix_removed", "sys:// prefix removed"),
   ("use_run_cmd", "Use 'run' command to run file"),
   ("available_files", "Available .txr files in 'games' directory:"),
   ("no_txr_files", "(no .txr files in 'games' directory)"),
   ("no_games_found", "No game files found. Place .txr files in 'games' directory.")]

/-- The prompt. -/
def englishCommands : List (String × String) :=
  [("unknown_cmd", "Unknown command: \x7b\x7d"),
   ("available_cmds", "Available commands: help, run, list, test, lang"),
   ("error", "Error: \x7b\x7d"),
   ("test_params", "Current parameters: HP=\x7b\x7d, Damage=\x7b\x7d"),
   ("emulator_shutdown", "Emulator shutting down..."),
   ("help_page", "Page number (1-2): "),
   ("lang_changed", "Language changed to: \x7b\x7d"),
   ("invalid_lang", "Invalid language code. Available languages: \x7b\x7d")]

/-- The phrases of the English pack, in order. -/
def englishPhrases : List (String × String) :=
  englishPrompt ++ englishHelp ++ englishFights ++ englishMenus ++ englishFiles ++ englishCommands

/-- The English pack. -/
def english : Table Wording Json := englishPhrases.map fun (key, text) => (↑key, .str text)

end Gamebook.Phrasebook

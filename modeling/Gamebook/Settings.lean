import Gamebook.Json.File
import Gamebook.Json.Printer
import Gamebook.World

/-!
# Settings

The current language is kept in a small file of JSON. Neither direction ever fails: settings that
cannot be read change nothing, and settings that cannot be written are not kept. A language with
half a character in it leaves a file that breaks off before it.
-/

namespace Gamebook

/-- Whether a wording occurs in another one. -/
def Wording.occursIn (w : Wording) : Wording → Bool
  | [] => w.isEmpty
  | symbol :: rest => w.isPrefixOf (symbol :: rest) || w.occursIn rest

namespace Json

/-- Whether a value holds a name: an object as that of a field, a list as an item, and a text as a
    part of it. Nothing can be looked for in other values. -/
def holds? (name : Wording) : Json → Option Bool
  | .obj fields => some (Table.get? fields name).isSome
  | .arr items => some <| items.any fun
    | .str w => w == name
    | _ => false
  | .str w => some (name.occursIn w)
  | _ => none

/-- The field of a name. Only objects have fields. -/
def field? (name : Wording) : Json → Option Json
  | .obj fields => Table.get? fields name
  | _ => none

end Json

namespace Settings

/-- The file of the settings. -/
def file : String := "engine_config.json"

/-- The language that the settings on a disk ask for. Whatever goes wrong on the way, they ask for
    none. -/
def language? (inner : Nat) (disk : Disk) : Option Json := do
  let config ← disk.json? inner file
  if ← config.holds? "language" then config.field? "language" else none

/-- Takes the language from the settings, if they have one. -/
def load : Play Unit := modify fun w =>
  match language? w.nesting w.disk with
  | some language => { w with phrasebook := { w.phrasebook with language } }
  | none => w

/-- The settings as JSON: the language, and the time at which it was chosen. -/
def toJson (language : Json) (time : String) : Json :=
  .obj [("language", language), ("last_used", .str time)]

/-- Writes the settings, if there is room for them. -/
def save : Play Unit := modify fun w =>
  let text := (toJson w.phrasebook.language w.clock).written
  match w.disk.write file (Text.Utf8.encode text) with
  | .ok disk => { w with disk }
  | .error _ => w

end Settings

end Gamebook

import Gamebook.Surroundings.Standard
import Gamebook.Template.Fill

/-!
# The phrasebook

Everything the program says is looked up by a key in the pack of the current language. A pack is an
object of JSON, named by the file it came from, and may hold any value as a phrase.

`phrase` finds a phrase and fills it in. A phrase that cannot be filled in is used as it stands,
and a key without a phrase stands for itself.
-/

namespace Gamebook

/-- The loaded packs by their codes, and the current language, which settings may set to any
    value. -/
structure Phrasebook where
  language : Json := .str "en"
  packs : Table Wording (Table Wording Json) := []
  /-- What the fields of a phrase can reach. -/
  reach : Surroundings := .standard
  deriving Inhabited

namespace Phrasebook

/-- The name of a pack's language: its own, or else its code in capitals. -/
def packName (code : Wording) (pack : Table Wording Json) : Json :=
  (Table.get? pack "language_name").getD (.str (Wording.upper code))

/-- The names of the languages by their codes. -/
def languages (b : Phrasebook) : Table Wording Json :=
  b.packs.map fun (code, pack) => (code, packName code pack)

/-- Whether a value can be looked up as a language: lists and dictionaries cannot. -/
def isCode : Json → Bool
  | .arr _ => false
  | .obj _ => false
  | _ => true

/-- What a table holds for a value that is used as a code. Only strings are codes of packs. -/
def lookUp {β : Type} (t : Table Wording β) : Json → Except Fault (Option β)
  | .str code => .ok (Table.get? t code)
  | v => if isCode v then .ok none else .error (.notLanguage v)

/-- A phrase with its fields filled in. Without values there is nothing to fill in. -/
def fillPhrase (S : Surroundings) (phrase : Json) (args : List Template.Arg) : Json :=
  match args, phrase with
  | _ :: _, .str template =>
    match Template.fill S template args with
    | some w => .str w
    | none => phrase
  | _, _ => phrase

/-- The phrase for a key in the current language. -/
def phrase (b : Phrasebook) (key : String) (args : List Template.Arg) : Except Fault Json := do
  let pack ← lookUp b.packs b.language
  match pack.bind (Table.get? · key) with
  | some phrase => return fillPhrase b.reach phrase args
  | none => return .str key

/-- Adds a pack. A pack of the same code gives way to it, at its place. -/
def add (b : Phrasebook) (code : Wording) (pack : Table Wording Json) : Phrasebook :=
  { b with packs := Table.put b.packs code pack }

/-- The languages one can choose from: their codes, each with its name. -/
def choices (b : Phrasebook) : Wording :=
  List.intercalate ", " (b.languages.map fun (code, name) => code ++ " (" ++ name.display ++ ")")

end Phrasebook

end Gamebook

import Gamebook.Json.Basic
import Gamebook.Number.Layout
import Gamebook.Number.Whole
import Gamebook.Text.Quoted

/-!
# Showing JSON values to the player

A pack may hold any value where a text is expected. `Json.display` is what the player then sees: a
string is shown as it is, and anything else by its `literal`, in which strings are quoted.
-/

namespace Gamebook.Json

mutual

/-- A value spelled out. -/
def literal : Json → List Char
  | .null => ['N', 'o', 'n', 'e']
  | .bool true => ['T', 'r', 'u', 'e']
  | .bool false => ['F', 'a', 'l', 's', 'e']
  | .int n => Whole.write n
  | .float x => x.text
  | .str w => Wording.quote w
  | .arr [] => ['[', ']']
  | .arr (item :: items) => '[' :: (literal item ++ literalItems items)
  | .obj [] => ['\x7b', '\x7d']
  | .obj ((name, value) :: fields) =>
    '\x7b' :: (Wording.quote name ++ [':', ' '] ++ literal value ++ literalFields fields)

/-- The items after the first one, and the closing bracket. -/
def literalItems : List Json → List Char
  | [] => [']']
  | item :: items => ',' :: ' ' :: (literal item ++ literalItems items)

/-- The fields after the first one, and the closing brace. -/
def literalFields : List (Wording × Json) → List Char
  | [] => ['\x7d']
  | (name, value) :: fields =>
    ',' :: ' ' :: (Wording.quote name ++ [':', ' '] ++ literal value ++ literalFields fields)

end

/-- A value as the player sees it. -/
def display : Json → Wording
  | .str w => w
  | v => Wording.ofChars v.literal

end Gamebook.Json

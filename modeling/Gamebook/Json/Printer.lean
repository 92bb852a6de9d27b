import Gamebook.Json.Basic
import Gamebook.Number.Layout
import Gamebook.Number.Whole
import Gamebook.Text.Quoted

/-!
# Writing JSON

`Json.render` writes a value over several lines: every item and field on a line of its own, two
spaces deeper than what it belongs to. Text stays as it is, but for quotes, backslashes and control
characters. Half a character cannot be written to a file. `Json.written` is what a file holds in the
end: all of the value, or what comes before the first string with half a character in it.

The writers put their text before a rest, so a value nested in many others is written once and not
copied at every level.
-/

namespace Gamebook.Json

/-- One character of a string. -/
def renderChar (c : Char) : List Char :=
  match c with
  | '"' => ['\\', '"']
  | '\\' => ['\\', '\\']
  | '\n' => ['\\', 'n']
  | '\r' => ['\\', 'r']
  | '\t' => ['\\', 't']
  | '\x08' => ['\\', 'b']
  | '\x0c' => ['\\', 'f']
  | c => if c.toNat < 0x20 then '\\' :: 'u' :: Text.hexDigits 4 c.toNat else [c]

/-- A string with its quotes. Halves of characters are left out. -/
def renderString (w : Wording) : List Char :=
  '"' :: ((w.filterMap Symbol.char?).flatMap renderChar ++ ['"'])

/-- A number with a fraction. -/
def renderFloat : Binary64 → List Char
  | .nan => ['N', 'a', 'N']
  | .infinite negative =>
    (if negative then ['-'] else []) ++ ['I', 'n', 'f', 'i', 'n', 'i', 't', 'y']
  | x => x.text

/-- A new line at a depth of nesting. -/
def newLine (depth : Nat) : List Char := '\n' :: List.replicate (2 * depth) ' '

mutual

/-- A value that stands at a depth of nesting, before the rest of a text. -/
def renderAt (depth : Nat) : Json → (rest : List Char) → List Char
  | .null, rest => ['n', 'u', 'l', 'l'] ++ rest
  | .bool true, rest => ['t', 'r', 'u', 'e'] ++ rest
  | .bool false, rest => ['f', 'a', 'l', 's', 'e'] ++ rest
  | .int n, rest => Whole.write n ++ rest
  | .float x, rest => renderFloat x ++ rest
  | .str w, rest => renderString w ++ rest
  | .arr [], rest => ['[', ']'] ++ rest
  | .arr (item :: items), rest =>
    '[' :: (newLine (depth + 1) ++ renderAt (depth + 1) item (renderItems depth items rest))
  | .obj [], rest => ['\x7b', '\x7d'] ++ rest
  | .obj ((name, value) :: fields), rest =>
    '\x7b' :: (newLine (depth + 1) ++ renderString name ++ [':', ' '] ++
      renderAt (depth + 1) value (renderFields depth fields rest))

/-- The items after the first one, and the end of the array. -/
def renderItems (depth : Nat) : List Json → (rest : List Char) → List Char
  | [], rest => newLine depth ++ [']'] ++ rest
  | item :: items, rest =>
    ',' :: (newLine (depth + 1) ++ renderAt (depth + 1) item (renderItems depth items rest))

/-- The fields after the first one, and the end of the object. -/
def renderFields (depth : Nat) : List (Wording × Json) → (rest : List Char) → List Char
  | [], rest => newLine depth ++ ['\x7d'] ++ rest
  | (name, value) :: fields, rest =>
    ',' :: (newLine (depth + 1) ++ renderString name ++ [':', ' '] ++
      renderAt (depth + 1) value (renderFields depth fields rest))

end

/-- A value over several lines. -/
def render (v : Json) : List Char := renderAt 0 v []

/-! ## Values that cannot be written -/

/-- Whether a wording has half a character in it. -/
def isBroken (w : Wording) : Bool := w.any fun s => s.char?.isNone

mutual

/-- What comes before the first string with half a character in it, in a value at a depth of
    nesting. There is nothing if the value has no such string. -/
def frontAt (depth : Nat) : Json → Option (List Char)
  | .str w => if isBroken w then some [] else none
  | .arr items => frontItems depth ('[' :: newLine (depth + 1)) items
  | .obj fields => frontFields depth ('\x7b' :: newLine (depth + 1)) fields
  | _ => none

/-- What comes before such a string in items, the first of which stands behind a text. A string is
    written together with the text before it. -/
def frontItems (depth : Nat) (before : List Char) : List Json → Option (List Char)
  | [] => none
  | item :: items =>
    match item, frontAt (depth + 1) item with
    | .str _, some _ => some []
    | _, some front => some (before ++ front)
    | _, none =>
      (frontItems depth (',' :: newLine (depth + 1)) items).map fun front =>
        before ++ renderAt (depth + 1) item front

/-- What comes before such a string in fields, the first of which stands behind a text. -/
def frontFields (depth : Nat) (before : List Char) : List (Wording × Json) → Option (List Char)
  | [] => none
  | (name, value) :: fields =>
    if isBroken name then some before
    else
      match frontAt (depth + 1) value with
      | some front => some (before ++ renderString name ++ [':', ' '] ++ front)
      | none =>
        (frontFields depth (',' :: newLine (depth + 1)) fields).map fun front =>
          before ++ renderString name ++ [':', ' '] ++ renderAt (depth + 1) value front

end

/-- What a file holds when a value was to be written to it. -/
def written (v : Json) : List Char := (frontAt 0 v).getD v.render

example : written (.obj [("a", .int 1), ("b", .str [.char 'c', .half 0xd800])]) =
    "\x7b\n  \"a\": 1,\n  \"b\": ".toList := by decide +kernel
example : written (.arr [.null, .str [.half 0xd800]]) = "[\n  null".toList := by decide +kernel

end Gamebook.Json

import Gamebook.Fault
import Gamebook.Table

/-!
# Held values

What the routines of the program hold while they work: values of JSON, rows and tables of held
values, things that are known only by their kind, their text and their parts, and what the library
has.

The parts of the library refer to each other, and their routines to the parts. So parts, kinds and
routines are held by their names.
-/

namespace Gamebook

/-- Where something is kept cannot be told from outside, so one address stands for all. -/
def somewhere : String := "0x7f0000000000"

/-- Something that is told by what it is and where it is kept. -/
def placed (what : String) : List Char := ("<" ++ what ++ " at " ++ somewhere ++ ">").toList

/-- A routine without a listing: its name, the part of the library that has it and the part that is
    told as its home, its arguments, and its description. -/
structure Tool where
  name : String
  part : Option String
  home : Option String
  signature : Option String
  note : Option String

/-- A tool of a part of the library, by its name. -/
def Tool.plain (part name : String) : Tool := ⟨name, some part, some part, none, none⟩

/-- A value that a routine holds. -/
inductive Held where
  | value (v : Json)
  | bytes (content : List UInt8)
  | tuple (items : List Held)
  | table (entries : List (String × Held))
  /-- The fault that is being told. -/
  | told
  /-- A kind, by its name. -/
  | kind (name : String)
  /-- A routine, by its key. -/
  | routine (key : String)
  /-- The code of a routine, by the key of the routine. -/
  | code (key : String)
  | tool (t : Tool)
  /-- A part of the library, by its name. -/
  | part (name : String)
  /-- A thing of a kind: its text, its properties by their names, and its items by their places. -/
  | thing (kindName : String) (text : List Char) (fields : List (String × Held))
      (items : List Held)

namespace Held

/-- A text. -/
def text (s : String) : Held := .value (.str s)

/-- A text, by its characters. -/
def chars (cs : List Char) : Held := .value (.str (.ofChars cs))

/-- A whole number. -/
def int (n : Int) : Held := .value (.int n)

/-- A truth value. -/
def bool (b : Bool) : Held := .value (.bool b)

/-- The empty value. -/
def null : Held := .value .null

/-- A row of texts. -/
def texts (row : List String) : Held := .tuple (row.map text)

/-- A list of texts. -/
def list (row : List String) : Held := .value (.arr (row.map fun (s : String) => .str s))

/-- The value that stands for something left out. -/
def ellipsis : Held := .thing "ellipsis" "Ellipsis".toList [] []

/-- The code of a routine within another one: its name, its full name, its first line, how many
    arguments it takes, what it holds, mentions and knows as constants, how many values it needs at
    a time, its traits, and what it shares with routines within it and around it. -/
def inner (name fullName : String) (line arguments : Nat) (names mentioned : List String)
    (constants : List Held) (depth traits : Nat) (cells outer : List String) : Held :=
  .thing "code" (placed ("code object " ++ name))
    [("co_name", text name), ("co_qualname", text fullName), ("co_firstlineno", int line),
     ("co_argcount", int arguments), ("co_posonlyargcount", int 0), ("co_kwonlyargcount", int 0),
     ("co_nlocals", int names.length), ("co_varnames", texts names), ("co_names", texts mentioned),
     ("co_consts", .tuple constants), ("co_stacksize", int depth), ("co_flags", int traits),
     ("co_cellvars", texts cells), ("co_freevars", texts outer)]
    []

mutual

/-- A held value spelled out, given the literal of the fault that is being told. -/
def literal (fault : List Char) : Held → List Char
  | .value v => v.literal
  | .bytes content => Text.quoteBytes content
  | .tuple items => Fault.inParentheses (literals fault items)
  | .table entries =>
    '\x7b' :: (List.intercalate [',', ' '] (entryLiterals fault entries) ++ ['\x7d'])
  | .told => fault
  | .kind name => ("<class '" ++ name ++ "'>").toList
  | .routine key => placed ("function " ++ key)
  | .code key => placed ("code object " ++ key)
  | .tool t => ("<built-in function " ++ t.name ++ ">").toList
  | .part name => ("<module '" ++ name ++ "'>").toList
  | .thing _ text _ _ => text

/-- Held values spelled out one by one. -/
def literals (fault : List Char) : List Held → List (List Char)
  | [] => []
  | h :: items => literal fault h :: literals fault items

/-- Entries of a table spelled out one by one. -/
def entryLiterals (fault : List Char) : List (String × Held) → List (List Char)
  | [] => []
  | (name, h) :: entries =>
    (Text.quote name.toList ++ [':', ' '] ++ literal fault h) :: entryLiterals fault entries

end

end Held

end Gamebook

import Gamebook.Surroundings
import Gamebook.Template.Spec

/-!
# Values for fields

A field takes a value and may reach into it, so a value for a field is a value of JSON or anything
that can be reached from one: kinds and their members, and the trail of a fault. Every value has a
kind, a literal in which it is spelled out, and a text that the player sees.

A trail leads back to its fault, which has the trail. So a part of a trail is named by the report it
belongs to and its place there. What routines hold, and routines themselves, know the report they
belong to, unless they belong to the library.
-/

namespace Gamebook.Template

/-- A value for a field. -/
inductive Arg where
  | value (v : Json)
  | bytes (content : List UInt8)
  | tuple (items : List Arg)
  /-- A kind, by its name. -/
  | kind (name : String)
  /-- A member of a kind. -/
  | member (m : Member)
  /-- A member taken from a value. -/
  | bound (m : Member) (self : Arg)
  /-- The own members of a kind by their names. -/
  | roster (kindName : String)
  /-- A kind with a remark on its items. -/
  | remarked (kindName : String) (remark : Arg)
  /-- A fault, as it is reported. -/
  | fault (r : Report)
  /-- The trail of a report from a place on. -/
  | trace (r : Report) (place : Nat)
  /-- What the routine at a place of a trail holds and knows. -/
  | frame (r : Report) (place : Nat)
  /-- Held values by their names. -/
  | table (r : Option Report) (entries : List (String × Held))
  /-- A routine. -/
  | routine (r : Option Report) (work : Routine)
  /-- The code of a routine. -/
  | code (r : Option Report) (work : Routine)
  /-- A routine of the library, taken from a value or a kind. -/
  | doing (work : Routine) (self : Arg)
  /-- A routine without a listing. -/
  | tool (t : Tool)
  /-- A thing that a routine holds. -/
  | thing (r : Option Report) (kindName : String) (text : List Char) (fields : List (String × Held))
      (items : List Held)

namespace Arg

/-- A text as a value. -/
def text (s : String) : Arg := .value (.str s)

/-- A whole number as a value. -/
def int (n : Int) : Arg := .value (.int n)

/-- A truth value. -/
def bool (b : Bool) : Arg := .value (.bool b)

/-- The empty value. -/
def null : Arg := .value .null

/-- A text that may be missing. -/
def text? (s : Option String) : Arg := (s.map text).getD .null

/-- The empty object. -/
def emptyObject : Arg := .value (.obj [])

/-- A detail of a fault as a value. -/
def ofDetail : Detail → Arg
  | .value v => .value v
  | .bytes content => .bytes content

/-- A part of the library. -/
def ofPart (S : Surroundings) (name : String) : Arg :=
  match S.part? name with
  | some p => .thing none "module" p.text p.contents []
  | none => .thing none "module" ("<module '" ++ name ++ "'>").toList [("__name__", .text name)] []

/-- The routine that a member stands for. -/
def workOf? (S : Surroundings) (m : Member) : Option Routine :=
  match m.value with
  | some (.routine key) => S.routine? key
  | _ => none

mutual

/-- A value that a routine holds. -/
def ofHeld (S : Surroundings) (r : Option Report) : Held → Arg
  | .value v => .value v
  | .bytes content => .bytes content
  | .tuple items => .tuple (ofHelds S r items)
  | .table entries => .table r entries
  | .told => (r.map Arg.fault).getD .null
  | .kind name => .kind name
  | .routine key => ((S.routine? key).map (.routine r)).getD .null
  | .code key => ((S.routine? key).map (.code r)).getD .null
  | .tool t => .tool t
  | .part name => ofPart S name
  | .thing kindName text fields items => .thing r kindName text fields items

/-- Values that a routine holds. -/
def ofHelds (S : Surroundings) (r : Option Report) : List Held → List Arg
  | [] => []
  | h :: items => ofHeld S r h :: ofHelds S r items

end

/-- The name of a value's kind. -/
def kindName : Arg → String
  | .value v => v.kind
  | .bytes _ => "bytes"
  | .tuple _ => "tuple"
  | .kind _ => "type"
  | .member m => m.kindName
  | .bound m _ => m.boundKindName
  | .roster _ => "mappingproxy"
  | .remarked _ _ => "types.GenericAlias"
  | .fault r => r.fault.label
  | .trace _ _ => "traceback"
  | .frame _ _ => "frame"
  | .table _ _ => "dict"
  | .routine _ _ => "function"
  | .code _ _ => "code"
  | .doing _ _ => "method"
  | .tool _ => "builtin_function_or_method"
  | .thing _ kindName _ _ _ => kindName

/-! ## Literals -/

/-- Names and values in braces. -/
def inBraces (entries : Table String (List Char)) : List Char :=
  let entry := fun (e : String × List Char) => Text.quote e.1.toList ++ [':', ' '] ++ e.2
  '\x7b' :: (List.intercalate [',', ' '] (entries.map entry) ++ ['\x7d'])

/-- A member of a kind spelled out as the kind lists it. -/
def memberLiteral (m : Member) : List Char :=
  match m.literal?, m.note with
  | some text, _ => text.toList
  | none, some note => Text.quote note.toList
  | none, none => Json.null.literal

/-- The members of a kind spelled out. -/
def rosterLiteral (S : Surroundings) (kindName : String) : List Char :=
  match S.kind? kindName with
  | some k => inBraces (k.members.map fun e => (e.name, memberLiteral (k.member e)))
  | none => inBraces []

/-- A kind spelled out. -/
def kindLiteral (name : String) : List Char := ("<class '" ++ name ++ "'>").toList

mutual

/-- A value spelled out. Numbers with too many digits cannot be. -/
def literal? (S : Surroundings) : Arg → Option (List Char)
  | .value (.int n) => Whole.write? n
  | .value v => some v.literal
  | .bytes content => some (Text.quoteBytes content)
  | .tuple items => (literals? S items).map Fault.inParentheses
  | .kind name => some (kindLiteral name)
  | .member m => some (memberLiteral m)
  | .bound m self => some (m.boundLiteral (S.givenName self.kindName)).toList
  | .roster name => some ("mappingproxy(".toList ++ rosterLiteral S name ++ [')'])
  | .remarked name remark => (literal? S remark).map fun cs => name.toList ++ '[' :: (cs ++ [']'])
  | .fault r => some r.fault.literal
  | .trace _ _ => some (placed "traceback object")
  | .frame _ _ => some (placed "frame")
  | .table r entries =>
    some (Held.literal ((r.map (·.fault.literal)).getD []) (.table entries))
  | .routine _ work => some (placed ("function " ++ work.fullName))
  | .code _ work => some (placed ("code object " ++ work.name))
  | .doing work self =>
    (literal? S self).map fun cs =>
      ("<bound method " ++ work.fullName ++ " of ").toList ++ cs ++ ['>']
  | .tool t => some ("<built-in function " ++ t.name ++ ">").toList
  | .thing _ _ text _ _ => some text

/-- Values spelled out one by one. -/
def literals? (S : Surroundings) : List Arg → Option (List (List Char))
  | [] => some []
  | a :: items => do return (← literal? S a) :: (← literals? S items)

end

/-- A value as the player sees it. -/
def display? (S : Surroundings) : Arg → Option Wording
  | .value (.str w) => some w
  | .fault r => some r.fault.message
  | .roster name => some (Wording.ofChars (rosterLiteral S name))
  | a => (a.literal? S).map Wording.ofChars

/-- A value as the mark of its field asks for it: spelled out by `r`, spelled out in ASCII by `a`,
    as shown by `s`. The null character is no mark. -/
def marked? (S : Surroundings) (a : Arg) : Option Symbol → Option Arg
  | none | some (.char '\x00') => some a
  | some (.char 'r') => (a.literal? S).map fun cs => .value (.str (Wording.ofChars cs))
  | some (.char 'a') =>
    (a.literal? S).map fun cs => .value (.str (Wording.ofChars (Text.escapeBeyondAscii cs)))
  | some (.char 's') => (a.display? S).map fun w => .value (.str w)
  | some _ => none

/-- A value laid out by a specification. Only texts and numbers take one that is not empty. A thing
    that is a number is laid out as one. -/
def format? (S : Surroundings) (a : Arg) (spec : Wording) : Option Wording :=
  if spec.isEmpty then a.display? S
  else
    match a with
    | .value (.str w) => do formatText (← Spec.parse spec) w
    | .value (.int n) => do formatInt (← Spec.parse spec) n
    | .value (.bool b) => do formatInt (← Spec.parse spec) (if b then 1 else 0)
    | .value (.float x) => do formatFloat (← Spec.parse spec) x
    | .thing _ _ _ fields _ =>
      match Table.get? fields "real" with
      | some (.value (.int n)) => do formatInt (← Spec.parse spec) n
      | _ => none
    | _ => none

end Arg

end Gamebook.Template

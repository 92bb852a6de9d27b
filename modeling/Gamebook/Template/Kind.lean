import Gamebook.Held.Things

/-!
# Kinds and members

A field of a template may reach from a value to its kind, and from there to the members that values
of the kind have. A kind shares the members of its ancestors. This module says what a kind is;
`Surroundings` lists the kinds there are.
-/

namespace Gamebook.Template

/-- How a member belongs to its kind. -/
inductive Role where
  /-- Something that a value can do, called by its name. -/
  | method
  /-- Something that a value can do, called by a sign of its own. -/
  | wrapper
  /-- A property that is worked out. -/
  | attribute
  /-- A property that is stored. -/
  | slot
  /-- Something that the kind can do. -/
  | shared
  /-- Something that makes a value of the kind. -/
  | builder
  /-- Something that needs neither a value nor the kind. -/
  | free
  /-- Something that values of the kind cannot do, although others can. -/
  | absent
  /-- The description of the kind. -/
  | note
  /-- The home of the kind. -/
  | home
  /-- A routine that a value can do. -/
  | work
  /-- A value that all values of the kind share. -/
  | constant
  deriving DecidableEq, Repr

/-- A line in the list of a kind's members: the name, the role, the arguments it is called with, its
    description, and the routine or the value that it stands for. -/
structure Entry where
  name : String
  role : Role
  signature : Option String := none
  note : Option String := none
  value : Option Held := none

/-- A member, with the name of the kind that lists it. -/
structure Member extends Entry where
  owner : String

/-- How values of a kind are stored: the size of a value and of one of its items, the places of its
    own table and of the references to it, and the traits of the kind as bits of a number. -/
structure Measures where
  size : Nat
  itemSize : Nat
  tablePlace : Int
  referencePlace : Nat
  traits : Nat
  deriving DecidableEq, Repr

/-- A kind of values: its name, the names of its ancestors from the nearest on, its description, the
    arguments that make a value of it, its measures, and its own members in their order. A name
    with a point in it starts with the name of the kind's home. -/
structure Kind where
  name : String
  ancestors : List String
  note : Option String := none
  signature : Option String := none
  measures : Measures
  members : List Entry

/-! ## Lines of the catalogue -/

namespace Entry

/-- A method. -/
def method (name : String) (signature note : Option String) : Entry :=
  { name, role := .method, signature, note }

/-- A property that is worked out. -/
def property (name : String) (note : Option String) : Entry := { name, role := .attribute, note }

/-- A property that is stored. -/
def slot (name : String) (note : Option String) : Entry := { name, role := .slot, note }

/-- A method of the kind. -/
def shared (name : String) (signature note : Option String) : Entry :=
  { name, role := .shared, signature, note }

/-- A method of no value. -/
def free (name : String) (signature note : Option String) : Entry :=
  { name, role := .free, signature, note }

/-- A member that is left out. -/
def absent (name : String) : Entry := { name, role := .absent }

/-- The member that makes values. -/
def maker : Entry where
  name := "__new__"
  role := .builder
  signature := some "($type, *args, **kwargs)"
  note := some "Create and return a new object.  See help(type) for accurate signature."

/-- The place of the kind's description among its members. -/
def described : Entry := { name := "__doc__", role := .note }

/-- The place of the kind's home among its members. -/
def homely : Entry := { name := "__module__", role := .home }

/-- A routine of the kind under its own name. -/
def work (name : String) : Entry := { name, role := .work }

/-- A value that all values of the kind share. -/
def constant (name : String) (value : Held) : Entry :=
  { name, role := .constant, value := some value }

end Entry

/-! ## Names -/

/-- The name of a kind without its home. -/
def shortName (kindName : String) : String :=
  String.ofList ((kindName.toList.reverse.takeWhile (· != '.')).reverse)

/-- The home of a kind. -/
def homeName (kindName : String) : String :=
  match kindName.toList.reverse.dropWhile (· != '.') with
  | _ :: home => String.ofList home.reverse
  | [] => "builtins"

example : shortName "types.GenericAlias" = "GenericAlias" := by decide
example : homeName "types.GenericAlias" = "types" := by decide
example : homeName "str" = "builtins" := by decide

/-- Something taken from a value, spelled out: what it is, its name, and the kind of the value. -/
def takenText (what name kindName : String) : String :=
  "<" ++ what ++ " " ++ name ++ " of " ++ kindName ++ " object at " ++ somewhere ++ ">"

namespace Member

/-- The name of a member with the kind it comes from. -/
def fullName (m : Member) : String := shortName m.owner ++ "." ++ m.name

/-- A member spelled out as its kind lists it, if it is not a plain value. -/
def literal? (m : Member) : Option String :=
  let said := fun what =>
    some ("<" ++ what ++ " '" ++ m.name ++ "' of '" ++ m.owner ++ "' objects>")
  match m.role with
  | .method | .shared => said "method"
  | .wrapper => said "slot wrapper"
  | .attribute => said "attribute"
  | .slot => said "member"
  | .builder => some (takenText "built-in method" m.name "type")
  | .free => some ("<staticmethod(" ++ takenText "built-in method" m.name "type" ++ ")>")
  | .work => some (String.ofList (placed ("function " ++ m.fullName)))
  | .constant => m.value.map fun h => String.ofList (h.literal [])
  | .absent | .note | .home => none

/-- A member spelled out as taken from a value of a kind. -/
def boundLiteral (m : Member) (kindName : String) : String :=
  match m.role with
  | .wrapper => takenText "method-wrapper" ("'" ++ m.name ++ "'") kindName
  | _ => takenText "built-in method" m.name kindName

/-- The kind of a member. -/
def kindName (m : Member) : String :=
  match m.role with
  | .method => "method_descriptor"
  | .wrapper => "wrapper_descriptor"
  | .attribute => "getset_descriptor"
  | .slot => "member_descriptor"
  | .shared => "classmethod_descriptor"
  | .builder => "builtin_function_or_method"
  | .free => "staticmethod"
  | .work => "function"
  | .absent | .constant => "NoneType"
  | .note | .home => "str"

/-- The kind of a member that has been taken from a value. -/
def boundKindName (m : Member) : String :=
  match m.role with
  | .wrapper => "method-wrapper"
  | _ => "builtin_function_or_method"

end Member

namespace Kind

/-- What a line of a kind's list tells: the description and the home of the kind are told as they
    are, and any other member has a description of its own. -/
def noteOf (k : Kind) (e : Entry) : Option String :=
  match e.role with
  | .note => k.note
  | .home => some (homeName k.name)
  | _ => e.note

/-- What a line of a kind's list stands for. The key of a routine has the kind's name in it. -/
def valueOf (k : Kind) (e : Entry) : Option Held :=
  if e.role = .work then some (.routine (k.name ++ "." ++ e.name)) else e.value

/-- A line of a kind's list as a member. -/
def member (k : Kind) (e : Entry) : Member :=
  { e with owner := k.name, note := k.noteOf e, value := k.valueOf e }

/-- A kind's own member of a name. -/
def own? (k : Kind) (name : String) : Option Member :=
  (k.members.find? (·.name == name)).map k.member

end Kind

end Gamebook.Template

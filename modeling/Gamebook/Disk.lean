import Gamebook.Table
import Gamebook.Text.Utf8

/-!
# The disk

Files and folders, seen from the folder the program works in. A path that starts with a slash is
followed from the top of the disk, and any other path from the working folder; `..` goes up, and at
the top it stays there. `find` follows a path, `write` and `makeFolder` change the working folder,
and `list` gives the names in a folder in the order of the disk, which may be any.
-/

namespace Gamebook

/-- A file with its bytes, or a folder with its entries. -/
inductive Node where
  | file (content : List UInt8)
  | folder (entries : List (String × Node))
  deriving Inhabited

namespace Disk

/-- A name that a path can go through: it is no step to the same folder or to the one above. -/
def IsName (name : String) : Prop := name ≠ "" ∧ name ≠ "." ∧ name ≠ ".."

instance (name : String) : Decidable (IsName name) := inferInstanceAs (Decidable (_ ∧ _))

/-- A folder around another one: the name that the other one has in it, and what else it holds. -/
structure Outer where
  name : String
  isName : IsName name
  others : Table String Node := []

/-- An order in which the names in a folder are listed. -/
structure Order where
  arrange : List String → List String
  perm : ∀ names, (arrange names).Perm names

/-- Names in the order of their characters. -/
def Order.alphabetical : Order where
  arrange names := names.mergeSort fun a b => decide (a ≤ b)
  perm names := List.mergeSort_perm names _

/-- Names in the order in which the folder holds them. -/
def Order.asFound : Order := ⟨id, fun _ => .refl _⟩

instance : Inhabited Order := ⟨.alphabetical⟩

/-- The folders around a working folder `/home/player`, with nothing else in them. -/
def playersHome : List Outer :=
  [{ name := "player", isName := by decide }, { name := "home", isName := by decide }]

end Disk

/-- The working folder by its entries, the folders around it from the nearest to the top, and the
    order in which folders are listed. -/
structure Disk where
  entries : Table String Node := []
  around : List Disk.Outer := Disk.playersHome
  order : Disk.Order := .alphabetical
  deriving Inhabited

namespace Disk

/-- Why a path could not be used. -/
inductive Failure where
  /-- There is nothing at the path. -/
  | missing
  /-- The path leads through a file, or a folder was wanted. -/
  | notFolder
  /-- A file was wanted, and there is a folder. -/
  | isFolder
  /-- A folder was wanted, and there is a file. -/
  | exists
  deriving DecidableEq, Repr

/-- The number of a failure. -/
def Failure.code : Failure → Nat
  | .missing => 2
  | .exists => 17
  | .notFolder => 20
  | .isFolder => 21

/-- A failure in words. -/
def Failure.text : Failure → String
  | .missing => "No such file or directory"
  | .exists => "File exists"
  | .notFolder => "Not a directory"
  | .isFolder => "Is a directory"

/-- The working folder as a node. -/
def here (d : Disk) : Node := .folder d.entries

/-- The folders around a node, the nearest first. Each of them holds the one before it. -/
def enclosing : (inner : Node) → List Outer → List Node
  | _, [] => []
  | inner, o :: outers =>
    let outer := .folder ((o.name, inner) :: o.others)
    outer :: enclosing outer outers

/-- The folders around the working folder, the nearest first. -/
def above (d : Disk) : List Node := enclosing d.here d.around

/-- The folder at the top of the disk. -/
def top (d : Disk) : Node := d.above.getLast?.getD d.here

/-- Follows the parts of a path from a node. `above` holds the folders around the node, the nearest
    first. Empty parts and `.` stay where they are, and `..` goes up if there is a folder above. -/
def walk : (parts : List String) → Node → (above : List Node) → Except Failure Node
  | [], here, _ => .ok here
  | _ :: _, .file _, _ => .error .notFolder
  | part :: parts, .folder entries, above =>
    if part = "" ∨ part = "." then walk parts (.folder entries) above
    else if part = ".." then
      match above with
      | [] => walk parts (.folder entries) []
      | up :: above => walk parts up above
    else
      match Table.get? entries part with
      | none => .error .missing
      | some node => walk parts node (.folder entries :: above)

/-- The parts of a path between its slashes. -/
def parts (path : String) : List String := (path.toList.splitOn '/').map String.ofList

/-- The most bytes that a path may have. -/
def maxPathBytes : Nat := 4095

/-- Whether a text can be a path: it is not empty, holds no zero character and is not too long. -/
def isPath (path : String) : Bool :=
  !path.isEmpty && !path.toList.contains '\x00' &&
    (Text.Utf8.encode path.toList).length ≤ maxPathBytes

/-- Whether a path starts at the top of the disk. -/
def isAbsolute (path : String) : Bool := path.toList.head? == some '/'

/-- What is at a path. -/
def find (d : Disk) (path : String) : Except Failure Node :=
  if isPath path then
    if isAbsolute path then walk (parts path) d.top [] else walk (parts path) d.here d.above
  else .error .missing

/-- Whether there is something at a path. -/
def has (d : Disk) (path : String) : Bool :=
  match d.find path with
  | .ok _ => true
  | .error _ => false

/-- The bytes of the file at a path. -/
def read (d : Disk) (path : String) : Except Failure (List UInt8) :=
  match d.find path with
  | .ok (.file content) => .ok content
  | .ok (.folder _) => .error .isFolder
  | .error e => .error e

/-- The names of some entries in the order of the disk. -/
def listing (d : Disk) (entries : Table String Node) : List String :=
  d.order.arrange (Table.names entries)

/-- The names in the folder at a path. -/
def list (d : Disk) (path : String) : Except Failure (List String) :=
  match d.find path with
  | .ok (.folder entries) => .ok (d.listing entries)
  | .ok (.file _) => .error .notFolder
  | .error e => .error e

/-- Writes a file below a node, at a path given by its parts. All folders on the way must be
    there. -/
def writeAt (content : List UInt8) : (parts : List String) → Node → Except Failure Node
  | [], .file _ => .ok (.file content)
  | [], .folder _ => .error .isFolder
  | _ :: _, .file _ => .error .notFolder
  | [name], .folder entries =>
    match Table.get? entries name with
    | some (.folder _) => .error .isFolder
    | _ => .ok (.folder (Table.put entries name (.file content)))
  | name :: parts, .folder entries =>
    match Table.get? entries name with
    | none => .error .missing
    | some node =>
      (writeAt content parts node).map fun node => .folder (Table.put entries name node)

/-- Writes a file at a path of plain names in the working folder. -/
def write (d : Disk) (path : String) (content : List UInt8) : Except Failure Disk :=
  match writeAt content (parts path) d.here with
  | .ok (.folder entries) => .ok { d with entries }
  | .ok (.file _) => .error .notFolder
  | .error e => .error e

/-- Adds an empty folder to the working folder, unless there is something of that name. -/
def makeFolder (d : Disk) (name : String) : Disk :=
  match Table.get? d.entries name with
  | some _ => d
  | none => { d with entries := Table.put d.entries name (.folder []) }

/-! ## Setting up a disk -/

/-- Puts a node below the entries of the folder at `place`, making the folders on the way. A file
    gives way to a new one, and a folder that is already there keeps its entries. A failure comes
    with the path that it is about. -/
def insertAt (new : Node) (place : String) :
    (parts : List String) → Table String Node → Except (Failure × String) (Table String Node)
  | [], entries => .ok entries
  | [name], entries =>
    match new, Table.get? entries name with
    | .folder _, some (.folder _) => .ok entries
    | .folder _, some (.file _) => .error (.exists, place ++ name)
    | .file _, some (.folder _) => .error (.isFolder, place ++ name)
    | new, _ => .ok (Table.put entries name new)
  | name :: next :: parts, entries =>
    let inner := match Table.get? entries name with
      | some (.folder inner) => .ok inner
      | some (.file _) =>
        if parts.isEmpty then .error (.exists, place ++ name)
        else .error (.notFolder, place ++ name ++ "/" ++ next)
      | none => .ok []
    do
      let inner ← insertAt new (place ++ name ++ "/") (next :: parts) (← inner)
      return Table.put entries name (.folder inner)

/-- The parts of a path that are names. -/
def plainParts (path : String) : List String := (parts path).filter fun p => p != "" && p != "."

/-- Puts a node at a path, making the folders on the way. -/
def insert (d : Disk) (path : String) (new : Node) : Except (Failure × String) Disk :=
  (insertAt new "" (plainParts path) d.entries).map fun entries => { d with entries }

/-- Removes what is at a path, given by its parts. -/
def eraseAt : (parts : List String) → Table String Node → Table String Node
  | [], entries => entries
  | [name], entries => Table.erase entries name
  | name :: parts, entries =>
    match Table.get? entries name with
    | some (.folder inner) => Table.put entries name (.folder (eraseAt parts inner))
    | _ => entries

/-- Removes a file, or a folder with everything in it. -/
def erase (d : Disk) (path : String) : Except Failure Disk :=
  (d.find path).map fun _ => { d with entries := eraseAt (plainParts path) d.entries }

mutual

/-- The paths of a node at `place` and of everything in it. A folder's path ends in a slash. -/
def pathsOf (place : String) : Node → List String
  | .file _ => [place]
  | .folder entries => (place ++ "/") :: pathsOfEntries (place ++ "/") entries

/-- The paths of the entries of a folder and of everything in them. -/
def pathsOfEntries (place : String) : List (String × Node) → List String
  | [] => []
  | (name, node) :: entries => pathsOf (place ++ name) node ++ pathsOfEntries place entries

end

mutual

/-- The files of a node at `place`, by their paths, with their bytes. -/
def filesOf (place : String) : Node → List (String × List UInt8)
  | .file content => [(place, content)]
  | .folder entries => filesOfEntries (place ++ "/") entries

/-- The files of the entries of a folder. -/
def filesOfEntries (place : String) : List (String × Node) → List (String × List UInt8)
  | [] => []
  | (name, node) :: entries => filesOf (place ++ name) node ++ filesOfEntries place entries

end

/-- All files on the disk, by their paths, with their bytes. -/
def files (d : Disk) : List (String × List UInt8) := filesOfEntries "" d.entries

/-- All paths on the disk, in the order of their characters. -/
def paths (d : Disk) : List String :=
  (pathsOfEntries "" d.entries).mergeSort fun a b => decide (a ≤ b)

end Disk

end Gamebook

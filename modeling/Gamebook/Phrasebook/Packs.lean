import Gamebook.Json.File
import Gamebook.Json.Printer
import Gamebook.Phrasebook.English
import Gamebook.World

/-!
# Loading language packs

The packs are the files of the folder `langs` whose names end in `.json`. A file that cannot be
read, is no JSON or holds no object is passed over. If no pack is found, the English one is written
and the folder is read once more.
-/

namespace Gamebook.Phrasebook

open Play

/-- The folder of the packs. -/
def folder : String := "langs"

/-- The ending of a pack's file name. -/
def ending : String := ".json"

/-- The code of a pack: its file name without the ending, wherever it occurs. -/
def codeOf (file : String) : String :=
  String.ofList (Text.replaceAll ending.toList [] file.toList)

/-- Whether a file name is that of a pack. -/
def isPackFile (file : String) : Bool := ending.toList.isSuffixOf file.toList

/-- The pack in a file, if there is one. -/
def readPack? (inner : Nat) (disk : Disk) (file : String) : Option (Table Wording Json) :=
  match disk.json? inner (folder ++ "/" ++ file) with
  | some (.obj pack) => some pack
  | _ => none

/-- Adds the pack in a file, if there is one. -/
def addFile (inner : Nat) (disk : Disk) (b : Phrasebook) (file : String) : Phrasebook :=
  if isPackFile file then
    match readPack? inner disk file with
    | some pack => b.add (codeOf file) pack
    | none => b
  else b

/-- Adds the packs in some files, one after the other. -/
def addFiles (inner : Nat) (disk : Disk) (files : List String) (b : Phrasebook) : Phrasebook :=
  files.foldl (addFile inner disk) b

/-- Writes the English pack. -/
def writeEnglish : Play Unit := writeText (folder ++ "/en.json") (Json.obj english).written

/-- Forgets all packs and reads those in the folder, which is made with the English pack in it if
    it is not there. -/
def readFolder : Play Unit := do
  modify fun w => { w with phrasebook := { w.phrasebook with packs := [] } }
  if !(← get).disk.has folder then
    ensureFolder folder
    writeEnglish
  let files ← listFolder folder
  modify fun w => { w with phrasebook := addFiles w.nesting w.disk files w.phrasebook }

/-- Loads the packs. -/
def load : Play Unit := do
  readFolder
  if (← get).phrasebook.packs.isEmpty then
    writeEnglish
    readFolder

end Gamebook.Phrasebook

import Gamebook.Prompt
import Std.Time.Zoned

/-!
# The program

Plays a session at the terminal, in the current folder. The folder is read into a `Disk` at the
start, and what a command changes on it is written back. A command runs on the answers typed so
far; when it asks for one more, its events up to that question are shown, a line is read, and the
command runs once more from the same world.
-/

namespace Gamebook.Main

/-- How many folders inside one another are read. -/
def maxDepth : Nat := 32

/-- Reads the entries of a folder below the current one. -/
def readEntries : (depth : Nat) → (path : String) → IO (Table String Node)
  | 0, _ => return []
  | depth + 1, path => do
    let here ← IO.currentDir
    let mut entries : Table String Node := []
    for entry in ← (here / path).readDir do
      let inner := path ++ "/" ++ entry.fileName
      if ← entry.path.isDir then
        entries := entries.put entry.fileName (.folder (← readEntries depth inner))
      else
        let content ← IO.FS.readBinFile entry.path
        entries := entries.put entry.fileName (.file content.toList)
    return entries

/-- The folders around the current one, the nearest first, by their names alone. -/
def outers (names : List String) : List Disk.Outer :=
  names.reverse.filterMap fun name =>
    if h : Disk.IsName name then some { name, isName := h } else none

/-- Reads the current folder. Of the folders around it only the names are read. -/
def readDisk : IO Disk := do
  let here ← IO.currentDir
  return {
    entries := ← readEntries maxDepth "."
    around := outers (here.toString.splitOn "/")
    order := .asFound }

/-- Writes what is new on a disk. -/
def writeChanges (old new : Disk) : IO Unit := do
  for path in new.paths do
    if path.endsWith "/" && !old.paths.contains path then IO.FS.createDirAll path
  let known := old.files
  for (path, content) in new.files do
    if Table.get? known path != some content then IO.FS.writeBinFile path ⟨content.toArray⟩

/-- A number in at least two digits. -/
def twoDigits (n : Int) : String :=
  let s := toString n
  if s.length < 2 then "0" ++ s else s

/-- The date and the time of day. -/
def now : IO String := do
  let t ← Std.Time.PlainDateTime.now
  return toString t.year.toInt ++ "-" ++ twoDigits t.month.val ++ "-" ++ twoDigits t.day.val ++
    " " ++ twoDigits t.hour.val ++ ":" ++ twoDigits t.minute.val ++ ":" ++ twoDigits t.second.val

/-- A pause in whole milliseconds. -/
def milliseconds : Binary64 → Nat
  | .finite false m e =>
    let (num, den) := Binary64.scaleTwo (1000 * m) 1 (-e)
    num / den
  | .infinite false => 0xffffffff
  | _ => 0

/-- Shows an event. -/
def showEvent (stdout : IO.FS.Stream) : Event → IO Unit
  | .print text => stdout.putStrLn text
  | .ask prompt => do
    stdout.putStr prompt
    stdout.flush
  | .draw _ => return ()
  | .pause seconds => do
    stdout.flush
    IO.sleep (min (milliseconds seconds) 0xffffffff).toUInt32

/-- A line without its line end. -/
def withoutLineEnd (line : String) : String :=
  let cs := line.toList.reverse
  let cs := (['\n'].isPrefixOf? cs).getD cs
  String.ofList ((['\r'].isPrefixOf? cs).getD cs).reverse

/-- Runs a step at the terminal, reading a line for every question. -/
def atTerminal {α : Type} (step : Play α) (w : World) : IO (Except Fault α × World) := do
  let stdin ← IO.getStdin
  let stdout ← IO.getStdout
  let mut answers : List Answer := []
  let mut picks : List Int := []
  let mut shown := 0
  let mut outcome : Option (Except Fault α × World) := none
  while outcome.isNone do
    let (result, after) := step.exec { w with console := { answers, picks } }
    let all := after.console.events.toList
    let waiting := answers.length < all.countP Event.isAsk
    let events := if waiting then Event.upToAsk answers.length all else all
    for event in events.drop shown do showEvent stdout event
    shown := events.length
    if waiting then
      let line ← stdin.getLine
      let answer := if line.isEmpty then Answer.endOfInput else .line (withoutLineEnd line)
      answers := answers ++ [answer]
      let pick ← IO.rand 0 1
      picks := picks ++ [(pick : Int)]
    else outcome := some (result, after)
  match outcome with
  | some (result, after) =>
    writeChanges w.disk after.disk
    return (result, after)
  | none => return (.error .interrupted, w)

/-- Tells a fault that ends the program. -/
def fail (f : Fault) : IO UInt32 := do
  (← IO.getStderr).putStrLn (f.label ++ ": " ++ f.message)
  return 1

end Gamebook.Main

open Gamebook Main in
/-- Plays a session. -/
def main : IO UInt32 := do
  let start : World := { disk := ← readDisk, clock := ← now, alone := true }
  let (result, w) ← atTerminal Prompt.greet start
  match result with
  | .error f => fail f
  | .ok () =>
    let mut w := w
    let mut code : Option UInt32 := none
    while code.isNone do
      let (result, after) ← atTerminal Prompt.turn { w with clock := ← now }
      w := after
      match result with
      | .error f => code := some (← fail f)
      | .ok (some ()) => code := some 0
      | .ok none => pure ()
    return code.getD 0

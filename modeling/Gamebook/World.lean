import Gamebook.Console
import Gamebook.Disk
import Gamebook.Phrasebook

/-!
# The world of a session

A session plays in a world: the game, the phrasebook, the disk, the console and the clock. The
console takes whatever it is given: a text with half a character in it is shown with a mark in the
place of the half, and a pause may be of any length. `Play` is a step of a session. It changes the
world and gives a result or a fault, and what it had changed before a fault stays changed.
-/

namespace Gamebook

/-- Everything that a session can see and change. -/
structure World where
  game : Game := {}
  phrasebook : Phrasebook := {}
  disk : Disk := {}
  console : Console := {}
  /-- The time of day, as it is written down. -/
  clock : String := ""
  /-- How deep lists and objects may stand inside the outermost one when JSON is read. -/
  nesting : Nat := 989
  /-- What the prompt has at hand, under the names that reports of faults give. -/
  desk : Table String Json := []
  /-- Whether the program was started by itself, and not by another one. -/
  alone : Bool := false
  deriving Inhabited

/-- A step of a session. -/
abbrev Play := ExceptT Mishap (StateM World)

namespace Play

/-- Runs a step in a world. -/
def exec {α : Type} (p : Play α) (w : World) : Except Fault α × World :=
  let (result, w) := (ExceptT.run p).run w
  (result.mapError (·.fault), w)

/-- Ends a step with a fault. -/
def fail {α : Type} (f : Fault) : Play α := throw { fault := f }

/-- Ends a step with a fault, unless there is a result. -/
def orThrow {α : Type} : Except Fault α → Play α
  | .ok a => pure a
  | .error f => fail f

/-- A step that leaves its mark on the trail of a fault. -/
def traced {α : Type} (p : Play α) (steps : Fault → List Step) : Play α :=
  tryCatch p fun m => throw (m.through (steps m.fault))

/-- What a step does after another one. -/
theorem exec_bind {α β : Type} (p : Play α) (f : α → Play β) (w : World) :
    (p >>= f).exec w =
      match p.exec w with
      | (.ok a, w') => (f a).exec w'
      | (.error e, w') => (.error e, w') := by
  simp only [exec, bind, ExceptT.bind, ExceptT.run, ExceptT.mk, StateT.bind, StateT.run]
  cases h : p w with
  | mk r w' =>
    cases r <;> rfl

@[simp] theorem exec_pure {α : Type} (a : α) (w : World) :
    (pure a : Play α).exec w = (.ok a, w) := rfl

/-- A mark on the trail does not change what a step does. -/
@[simp] theorem exec_traced {α : Type} (p : Play α) (steps : Fault → List Step) (w : World) :
    (p.traced steps).exec w = p.exec w := by
  simp only [exec, traced, tryCatch, tryCatchThe, MonadExceptOf.tryCatch, ExceptT.tryCatch,
    ExceptT.run, ExceptT.mk, bind, StateT.bind, StateT.run]
  cases h : p w with
  | mk r w' => cases r <;> rfl

/-- Changes the game. -/
def modifyGame (f : Game → Game) : Play Unit := modify fun w => { w with game := f w.game }

/-- Adds an event. -/
def emit (e : Event) : Play Unit := modify fun w => { w with console := w.console.log e }

/-- Shows a line. -/
def print (text : String) : Play Unit := emit (.print text)

/-- Waits for some seconds. -/
def pause (seconds : Binary64) : Play Unit := emit (.pause seconds)

/-- Asks the player, who answers with a line or ends the step. -/
def ask (prompt : String) : Play String := do
  emit (.ask prompt)
  match (← get).console.answers with
  | [] => fail (.endOfInput true)
  | answer :: answers =>
    modify fun w => { w with console := { w.console with answers } }
    match answer with
    | .line text => return text
    | .endOfInput => fail (.endOfInput false)
    | .interrupt => fail .interrupted

/-- Draws the foe's move. -/
def draw : Play Move := do
  let console := (← get).console
  modify fun w => { w with console := console.drawn }
  return console.nextMove

/-- The phrase for a key, filled in. -/
def phrase (key : String) (args : List Template.Arg) : Play Json := do
  orThrow ((← get).phrasebook.phrase key args)

/-- Shows a phrase. -/
def tell (key : String) (args : List Template.Arg) : Play Unit := do
  print (← phrase key args).display.shown

/-- Asks the player with a phrase. -/
def askPhrase (key : String) (args : List Template.Arg) : Play String := do
  ask (← phrase key args).display.shown

/-- Takes turns until one gives a result, at most `turns` of them. -/
def untilResult {α : Type} (turn : Play (Option α)) : (turns : Nat) → Play α
  | 0 => fail (.endOfInput true)
  | turns + 1 => do
    match ← turn with
    | some a => return a
    | none => untilResult turn turns

/-- Takes turns until one gives a result. Every turn without a result has used up an answer, so one
    turn more than there are answers is enough. -/
def repeatTurn {α : Type} (turn : Play (Option α)) : Play α := do
  untilResult turn ((← get).console.answers.length + 1)

/-- The text of the file at a path, with the line ends it has. -/
def readRaw (path : String) : Play (List Char) := do
  match (← get).disk.read path with
  | .error failure => fail (.disk failure path)
  | .ok content =>
    match Text.Utf8.decode content with
    | .error fault => fail (.notText content fault)
    | .ok cs => return cs

/-- Writes a text to the file at a path. -/
def writeText (path : String) (text : List Char) : Play Unit := do
  match (← get).disk.write path (Text.Utf8.encode text) with
  | .error failure => fail (.disk failure path)
  | .ok disk => modify fun w => { w with disk }

/-- The names in the folder at a path. -/
def listFolder (path : String) : Play (List String) := do
  match (← get).disk.list path with
  | .error failure => fail (.disk failure path)
  | .ok names => return names

/-- Keeps something at hand for reports. -/
def keep (name : String) (v : Json) : Play Unit :=
  modify fun w => { w with desk := Table.put w.desk name v }

/-- Makes a folder of the working folder if there is nothing of that name. -/
def ensureFolder (name : String) : Play Unit := modify fun w =>
  if w.disk.has name then w else { w with disk := w.disk.makeFolder name }

end Play

end Gamebook

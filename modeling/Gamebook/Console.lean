import Gamebook.Game
import Gamebook.Number.Binary64

/-!
# The console

What the player types and what the program does in turn. The answers are given in advance, and so
are the picks that stand for chance; everything the program does is kept as a list of events.

The console takes every text and every pause. A terminal may be stricter than that: it may refuse
halves of characters, and a clock may refuse very long pauses. Such refusals are no part of the
console.
-/

namespace Gamebook

/-- What the player does when asked. -/
inductive Answer where
  | line (text : String)
  /-- The player ends the input. -/
  | endOfInput
  /-- The player breaks off. -/
  | interrupt
  deriving DecidableEq, Repr

/-- Something that the program does. -/
inductive Event where
  | print (text : String)
  | ask (prompt : String)
  /-- The foe's move is drawn. -/
  | draw (move : Move)
  /-- The program waits, for this many seconds. -/
  | pause (seconds : Binary64)
  deriving DecidableEq, Repr

/-- Whether an event asks the player. -/
def Event.isAsk : Event → Bool
  | .ask _ => true
  | _ => false

/-- The events up to a question, and with it. The questions are counted from 0. -/
def Event.upToAsk : Nat → List Event → List Event
  | _, [] => []
  | n, e :: es =>
    match e.isAsk, n with
    | true, 0 => [e]
    | true, n + 1 => e :: upToAsk n es
    | false, n => e :: upToAsk n es

/-- The answers and picks still to come, and the events so far. -/
structure Console where
  answers : List Answer := []
  picks : List Int := []
  events : Array Event := #[]
  deriving Repr

namespace Console

/-- Adds an event. -/
def log (c : Console) (e : Event) : Console := { c with events := c.events.push e }

/-- The foe's next move: an even pick attacks, an odd one blocks, and without a pick it attacks. -/
def nextMove (c : Console) : Move :=
  match c.picks with
  | [] => .attack
  | n :: _ => if n % 2 = 0 then .attack else .block

/-- Draws the foe's next move. -/
def drawn (c : Console) : Console := { c with picks := c.picks.tail }.log (.draw c.nextMove)

@[simp] theorem events_log (c : Console) (e : Event) :
    (c.log e).events.toList = c.events.toList ++ [e] := by
  simp [log]

@[simp] theorem answers_log (c : Console) (e : Event) : (c.log e).answers = c.answers := rfl

end Console

end Gamebook

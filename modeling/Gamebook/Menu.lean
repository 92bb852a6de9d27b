import Gamebook.Amount

/-!
# Menus

A menu shows numbered options and asks until the answer is the number of one of them.
-/

namespace Gamebook.Menu

open Play

/-- Shows the options with their numbers, from `number` on. -/
def showFrom : (number : Nat) → List String → Play Unit
  | _, [] => pure ()
  | number, option :: options => do
    print (String.ofList (Nat.toDigits 10 number) ++ ". " ++ option)
    showFrom (number + 1) options

/-- What an answer means for a menu. -/
inductive Reply where
  /-- The option of this number, from 1 on. -/
  | chosen (number : Nat) (option : String)
  /-- A number without an option. -/
  | outside
  /-- Not a number. -/
  | noNumber
  deriving DecidableEq, Repr

/-- Reads an answer. -/
def replyTo (options : List String) (answer : String) : Reply :=
  match Whole.read answer.toList with
  | .error _ => .noNumber
  | .ok n =>
    if 1 ≤ n then
      match options[n.toNat - 1]? with
      | some option => .chosen n.toNat option
      | none => .outside
    else .outside

/-- Tells the player what came of an answer. Gives the number of the chosen option. -/
def respond (options : List String) : Reply → Play (Option Nat)
  | .chosen number option => do
    tell "chosen_option" [.text option]
    return some number
  | .outside => do
    tell "number_range" [.int options.length]
    return none
  | .noNumber => do
    tell "enter_number" []
    return none

/-- Asks once. -/
def turn (options : List String) : Play (Option Nat) := do
  respond options (replyTo options (← askPhrase "choose_option" [.int options.length]))

/-- Lets the player choose, and gives the number of the option. A menu of fewer than two options
    is not shown. -/
def choose (options : List String) : Play (Option Nat) := do
  if options.length < 2 then
    tell "select_min_options" []
    return none
  else
    tell "choice_title" []
    showFrom 1 options
    some <$> repeatTurn (turn options)

end Gamebook.Menu

import Gamebook.World

/-!
# Amounts

Points and damage are given as numbers, or as texts that have to be read first. The player's may
also be changed by an amount: `add` and a blank in front of the number.
-/

namespace Gamebook

/-- A whole number, or a text that should spell one. -/
inductive Amount where
  | number (n : Int)
  | text (s : String)
  deriving DecidableEq, Repr

/-- The whole number that a text spells. -/
def readWhole (cs : List Char) : Except Fault Int :=
  match Whole.read cs with
  | .ok n => .ok n
  | .error .malformed => .error (.notNumber (String.ofList cs))
  | .error (.tooLong digits) => .error (.numberTooLong digits)

namespace Amount

/-- An amount as a value. -/
def toJson : Amount → Json
  | .number n => .int n
  | .text s => .str s

/-- Whether an amount is one to add. -/
def adds : Amount → Bool
  | .number _ => false
  | .text s => (['a', 'd', 'd', ' '].isPrefixOf? s.toList).isSome

/-- The number of an amount. -/
def read : Amount → Except Fault Int
  | .number n => .ok n
  | .text s => readWhole s.toList

/-- What an amount makes of an old value: the sum if it starts with `add`, else its number. -/
def apply (old : Int) : Amount → Except Fault Int
  | .number n => .ok n
  | .text s =>
    match ['a', 'd', 'd', ' '].isPrefixOf? s.toList with
    | some cs => (readWhole cs).map (old + ·)
    | none => readWhole s.toList

end Amount

/-- Sets the player's points and then the damage. -/
def setPlayer (hp damage : Amount) : Play Unit := do
  let held : Table String Held :=
    [("hp_value", .value hp.toJson), ("damage_value", .value damage.toJson)]
  let new ← (Play.orThrow (hp.apply (← get).game.player.hp)).traced
    fun _ => [.playerHp hp.adds held]
  Play.modifyGame fun g => { g with player := { g.player with hp := new } }
  let new ← (Play.orThrow (damage.apply (← get).game.player.damage)).traced
    fun _ => [.playerDamage damage.adds held]
  Play.modifyGame fun g => { g with player := { g.player with damage := new } }

end Gamebook

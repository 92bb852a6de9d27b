/-!
# The state of a game

A game has a player and, while or after a fight, a foe. Points and damage are unbounded whole
numbers and may be negative.
-/

namespace Gamebook

/-- What a fighter does in a round. -/
inductive Move where
  | attack
  | block
  deriving DecidableEq, Repr

/-- The player's points and damage. -/
structure Player where
  hp : Int := 0
  damage : Int := 0
  deriving DecidableEq, Repr

/-- The foe of the current or the last fight. -/
structure Foe where
  name : String := ""
  hp : Int := 0
  damage : Int := 0
  deriving DecidableEq, Repr

/-- The state of a game. -/
structure Game where
  player : Player := {}
  foe : Foe := {}
  inFight : Bool := false
  deriving DecidableEq, Repr

/-- The damage that gets through a block: half of it, rounded down, and never less than nothing. -/
def throughBlock (damage : Int) : Int := max 0 (damage / 2)

namespace Game

/-- The points that the foe loses in a round. -/
def foeLoss (g : Game) : (mine theirs : Move) → Int
  | .attack, .attack => g.player.damage
  | .attack, .block => throughBlock g.player.damage
  | .block, _ => 0

/-- The points that the player loses in a round. -/
def playerLoss (g : Game) : (mine theirs : Move) → Int
  | .attack, .attack => g.foe.damage
  | .block, .attack => throughBlock g.foe.damage
  | _, .block => 0

/-- The game after a round. -/
def exchange (g : Game) (mine theirs : Move) : Game :=
  { g with
    player := { g.player with hp := g.player.hp - g.playerLoss mine theirs }
    foe := { g.foe with hp := g.foe.hp - g.foeLoss mine theirs } }

/-- Whether another round is fought. -/
def goesOn (g : Game) : Bool := g.inFight && decide (0 < g.foe.hp) && decide (0 < g.player.hp)

end Game

end Gamebook

import Gamebook.Amount

/-!
# Fights

A fight goes on in rounds while both sides have points left. In a round the player chooses to
attack or to block, the foe's move is drawn, and both lose points at once.
-/

namespace Gamebook.Battle

open Play

/-- The player's move: the answer `1` attacks, and any other blocks. -/
def moveOf (answer : String) : Move := if answer = "1" then .attack else .block

/-- Tells what happened in a round, from the game before or after it: names and damage stay the
    same. -/
def report (g : Game) : (mine theirs : Move) → Play Unit
  | .attack, .attack => do
    tell "player_attacked" [.text g.foe.name, .int g.player.damage]
    tell "enemy_attacked" [.text g.foe.name, .int g.foe.damage]
  | .attack, .block => do
    tell "blocked_attack" [.text g.foe.name]
    tell "damage_dealt" [.int (throughBlock g.player.damage)]
  | .block, .attack => do
    tell "enemy_blocked" [.text g.foe.name]
    tell "damage_taken" [.int (throughBlock g.foe.damage)]
  | .block, .block => tell "both_blocked" []

/-- Ends the fight. -/
def finish (won : Bool) : Play (Option Bool) := do
  modifyGame fun g => { g with inFight := false }
  return some won

/-- Fights out a round in which the player has made a move: the foe's move is drawn, and both lose
    points. Gives a result once the fight is over. -/
def resolve (mine : Move) : Play (Option Bool) := do
  let theirs ← draw
  modifyGame (·.exchange mine theirs)
  let g := (← get).game
  report g mine theirs
  tell "enemy_hp" [.text g.foe.name, .int g.foe.hp]
  tell "player_hp" [.int g.player.hp]
  if g.foe.hp ≤ 0 then
    tell "victory" [.text g.foe.name]
    finish true
  else if g.player.hp ≤ 0 then
    tell "defeat" [.text g.foe.name]
    finish false
  else return none

/-- Fights a round, if there is one to fight. Gives a result once the fight is over. -/
def round : Play (Option Bool) := do
  let g := (← get).game
  if !g.goesOn then finish (decide (0 < g.player.hp))
  else
    tell "player_turn" []
    tell "attack_option" []
    tell "block_option" []
    resolve (moveOf (← askPhrase "choose_action" []))

/-- Brings in the foe: the points, the damage and the name are set one after the other. -/
def meet (hp damage : Amount) (name : String) : Play Unit := do
  let held : Table String Held :=
    [("enemy_hp_value", .value hp.toJson), ("enemy_damage_value", .value damage.toJson),
     ("enemy_name_value", .text name)]
  modifyGame fun g => { g with inFight := true }
  let hp ← (orThrow hp.read).traced fun _ => [.foeHp held]
  modifyGame fun g => { g with foe := { g.foe with hp } }
  let damage ← (orThrow damage.read).traced fun _ => [.foeDamage held]
  modifyGame fun g => { g with foe := { g.foe with damage } }
  modifyGame fun g => { g with foe := { g.foe with name } }

/-- Fights a foe, and tells whether the fight was won. -/
def fight (hp damage : Amount) (name : String) : Play Bool := do
  meet hp damage name
  let g := (← get).game
  tell "fight_title" [.text (Text.upper g.foe.name)]
  tell "enemy_stats" [.int g.foe.damage, .int g.foe.hp]
  tell "player_stats" [.int g.player.damage, .int g.player.hp]
  repeatTurn round

end Gamebook.Battle

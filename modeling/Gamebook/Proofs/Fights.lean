import Gamebook.Proofs.Answers
import Gamebook.Proofs.Command
import Gamebook.Proofs.Loops

/-!
# How fights end

A round changes the game only by an exchange, in which both sides lose points at once, and by the
end of the fight. The foe's points are looked at first: if the foe has fallen the fight is won, and
else it is lost if the player has. A fight with no round to fight is won if the player has points.

So the result tells whether the player has survived, with one exception: if both fall in the same
round the fight is won.

## Key results

- `round_cases`: what a round can come to
- `won_iff_of_repeats`: what the result of a row of rounds tells
- `fight_result_tells_survival_iff`: what the result of a fight tells
-/

namespace Gamebook.Battle

open Play

/-! ## Steps that leave the game alone -/

variable {g : Game}

/-- What is told of two moves leaves the game alone. -/
private theorem keeps_report (shown : Game) (mine theirs : Move) :
    Keeps (·.game = g) (report shown mine theirs) := by
  cases mine <;> cases theirs
  · exact .bind (keeps_tell _ _) fun _ => keeps_tell _ _
  · exact .bind (keeps_tell _ _) fun _ => keeps_tell _ _
  · exact .bind (keeps_tell _ _) fun _ => keeps_tell _ _
  · exact keeps_tell _ _

/-! ## Rounds -/

/-- `Verdict g r g'`: what a game `g` comes to after an exchange: the result, if there is one, and
    the game that is left. The foe is looked at first. -/
inductive Verdict (g : Game) : Option Bool → Game → Prop where
  | won (hfoe : g.foe.hp ≤ 0) : Verdict g (some true) { g with inFight := false }
  | lost (hfoe : 0 < g.foe.hp) (hplayer : g.player.hp ≤ 0) :
      Verdict g (some false) { g with inFight := false }
  | undecided (hfoe : 0 < g.foe.hp) (hplayer : 0 < g.player.hp) : Verdict g none g

private theorem exec_finish (won : Bool) (w : World) :
    (finish won).exec w = (.ok (some won), { w with game := { w.game with inFight := false } }) :=
  rfl

/-- `resolve` is an exchange with some move of the foe, and the `Verdict` on it. -/
private theorem exists_verdict_of_resolve {mine : Move} {w v : World} {r : Option Bool}
    (h : (resolve mine).exec w = (.ok r, v)) :
    ∃ theirs, Verdict (w.game.exchange mine theirs) r v.game := by
  refine ⟨w.console.nextMove, ?_⟩
  rw [resolve, exec_bind_of_ok (exec_draw w), exec_bind_of_ok (exec_modifyGame _ _),
    exec_bind_of_ok (exec_get _)] at h
  dsimp only at h
  generalize w.game.exchange mine w.console.nextMove = g at h ⊢
  -- what is told of the round leaves the game as the exchange has made it
  obtain ⟨-, u₁, hu₁, h⟩ := (keeps_report g mine _).exists_of_bind rfl h
  obtain ⟨-, u₂, hu₂, h⟩ := (keeps_tell _ _).exists_of_bind hu₁ h
  obtain ⟨-, u₃, hu₃, h⟩ := (keeps_tell _ _).exists_of_bind hu₂ h
  split at h
  · rename_i hfoe
    obtain ⟨-, u₄, hu₄, h⟩ := (keeps_tell _ _).exists_of_bind hu₃ h
    cases (exec_finish true u₄).symm.trans h
    exact hu₄ ▸ .won hfoe
  · rename_i hfoe
    split at h
    · rename_i hplayer
      obtain ⟨-, u₄, hu₄, h⟩ := (keeps_tell _ _).exists_of_bind hu₃ h
      cases (exec_finish false u₄).symm.trans h
      exact hu₄ ▸ .lost (Int.not_le.1 hfoe) hplayer
    · rename_i hplayer
      cases (exec_pure none u₃).symm.trans h
      exact hu₃ ▸ .undecided (Int.not_le.1 hfoe) (Int.not_le.1 hplayer)

/-- What a `round` comes to: there was none to fight, or there was an exchange. -/
theorem round_cases {w v : World} {r : Option Bool} (h : round.exec w = (.ok r, v)) :
    (w.game.goesOn = false ∧ r = some (decide (0 < w.game.player.hp)) ∧
      v.game = { w.game with inFight := false }) ∨
    (w.game.goesOn = true ∧ ∃ mine theirs, Verdict (w.game.exchange mine theirs) r v.game) := by
  rw [round, exec_bind_of_ok (exec_get w)] at h
  dsimp only at h
  cases hgoes : w.game.goesOn <;> rw [hgoes] at h
  · cases (exec_finish _ w).symm.trans h
    exact .inl ⟨rfl, rfl, rfl⟩
  · -- the player is asked for a move, and the game is as it was by then
    obtain ⟨-, u, hu, h⟩ := (keeps_tell _ _).exists_of_bind rfl h
    obtain ⟨-, u, hu, h⟩ := (keeps_tell _ _).exists_of_bind hu h
    obtain ⟨-, u, hu, h⟩ := (keeps_tell _ _).exists_of_bind hu h
    obtain ⟨answer, u, hu, h⟩ := (keeps_askPhrase _ _).exists_of_bind hu h
    obtain ⟨theirs, hverdict⟩ := exists_verdict_of_resolve h
    exact .inr ⟨rfl, moveOf answer, theirs, hu ▸ hverdict⟩

/-! ## Fights -/

/-- A fight `goesOn` as long as both sides have points. -/
theorem goesOn_iff : g.goesOn = true ↔ g.inFight = true ∧ 0 < g.foe.hp ∧ 0 < g.player.hp := by
  simp [Game.goesOn, and_assoc]

/-- Rounds are won if the player survives them, or if there was a round to fight and the foe has
    fallen in the end. -/
theorem won_iff_of_repeats {w : World} {out : Except Fault Bool × World}
    (h : Repeats round w out) (hfight : w.game.inFight = true) {won : Bool}
    (hwon : out.1 = .ok won) :
    won = true ↔ 0 < out.2.game.player.hp ∨
      (0 < w.game.player.hp ∧ 0 < w.game.foe.hp ∧ out.2.game.foe.hp ≤ 0) := by
  -- induction on the rounds: the last one decides, and those before it change no side's standing
  induction h with
  | fault => cases hwon
  | @done w v _ h =>
    cases hwon
    dsimp only
    rcases round_cases h with ⟨hgoes, hresult, hgame⟩ | ⟨hgoes, mine, theirs, hverdict⟩
    · -- the fight is over before a round, so one side had no points to begin with
      have hover : ¬ (0 < w.game.foe.hp ∧ 0 < w.game.player.hp) := fun hboth => by
        rw [goesOn_iff.2 ⟨hfight, hboth⟩] at hgoes
        cases hgoes
      rw [Option.some.inj hresult, hgame, decide_eq_true_iff]
      dsimp only
      omega
    · obtain ⟨-, hfoe, hplayer⟩ := goesOn_iff.1 hgoes
      generalize v.game = g' at hverdict ⊢
      cases hverdict with
      | won hfell => exact iff_of_true rfl (.inr ⟨hplayer, hfoe, hfell⟩)
      | lost hstands hfell =>
        refine iff_of_false (by decide) ?_
        dsimp only
        omega
  | @again w v out h rest ih =>
    rcases round_cases h with ⟨-, hresult, -⟩ | ⟨hgoes, mine, theirs, hverdict⟩
    · cases hresult
    · -- both sides have points before and after a round that decides nothing
      obtain ⟨-, hfoe, hplayer⟩ := goesOn_iff.1 hgoes
      generalize v.game = g' at hverdict ih
      cases hverdict with
      | undecided hfoe' hplayer' =>
        rw [ih hfight hwon]
        simp only [hfoe, hplayer, hfoe', hplayer', true_and]

/-- A `fight` that comes to a result is a row of rounds with the foe that was brought in. -/
private theorem exists_repeats_of_fight {hp damage : Amount} {name : String} {points : Int}
    {w v : World} {won : Bool} (hhp : hp.read = .ok points)
    (h : (fight hp damage name).exec w = (.ok won, v)) :
    ∃ u, u.game.inFight = true ∧ u.game.player = w.game.player ∧ u.game.foe.hp = points ∧
      Repeats round u (.ok won, v) := by
  obtain ⟨_, u, hmeet, h⟩ := exists_of_exec_bind h
  rw [exec_meet, hhp] at hmeet
  dsimp only at hmeet
  cases hdamage : damage.read with
  | error f =>
    rw [hdamage] at hmeet
    cases hmeet
  | ok strength =>
    rw [hdamage] at hmeet
    have hu : u.game = { w.game with
        inFight := true, foe := { name, hp := points, damage := strength } } := by
      cases hmeet
      rfl
    -- the fight is announced, and then come the rounds
    rw [exec_bind_of_ok (exec_get u)] at h
    obtain ⟨-, u₁, hu₁, h⟩ := (keeps_tell _ _).exists_of_bind hu h
    obtain ⟨-, u₂, hu₂, h⟩ := (keeps_tell _ _).exists_of_bind hu₁ h
    obtain ⟨-, u₃, hu₃, h⟩ := (keeps_tell _ _).exists_of_bind hu₂ h
    refine ⟨u₃, by rw [hu₃], by rw [hu₃], by rw [hu₃], ?_⟩
    exact h ▸ repeats_repeatTurn usesAnswer_round u₃

/-- A fight is won if the player survives it, or if the foe falls in one of its rounds. So its
    result tells whether the player has survived, unless both had points and neither has any left:
    then they have fallen in the same round, and the fight is won. -/
theorem fight_result_tells_survival_iff {hp damage : Amount} {name : String} {points : Int}
    {w v : World} {won : Bool} (hhp : hp.read = .ok points)
    (h : (fight hp damage name).exec w = (.ok won, v)) :
    (won = true ↔ 0 < v.game.player.hp ∨
      (0 < w.game.player.hp ∧ 0 < points ∧ v.game.foe.hp ≤ 0)) ∧
    ((won = true ↔ 0 < v.game.player.hp) ↔
      ¬ (0 < w.game.player.hp ∧ 0 < points ∧ v.game.player.hp ≤ 0 ∧ v.game.foe.hp ≤ 0)) := by
  obtain ⟨u, hfight, hplayer, hfoe, hrounds⟩ := exists_repeats_of_fight hhp h
  have hwon := won_iff_of_repeats hrounds hfight rfl
  rw [hplayer, hfoe] at hwon
  refine ⟨hwon, ?_⟩
  -- survival and the result part ways only where both end with no points left
  rw [hwon]
  dsimp only
  omega

/-- A fight with a rat that has a point, in which the player attacks once. -/
def ratFight (hp : Int) : Except Fault Bool × World :=
  (fight (.text " 1 ") (.number 1) "Rat").exec
    { game := { player := { hp, damage := 1 } }, console := { answers := [.line "1"] } }

theorem ratFight_tells_survival :
    (ratFight 2).1.toOption = some true ∧ (true = true ↔ 0 < (ratFight 2).2.game.player.hp) := by
  have hwon : (ratFight 2).1.toOption = some true := by decide +kernel
  have hstands : ¬ (0 < (2 : Int) ∧ 0 < (1 : Int) ∧ (ratFight 2).2.game.player.hp ≤ 0 ∧
      (ratFight 2).2.game.foe.hp ≤ 0) := by decide +kernel
  exact ⟨hwon, (fight_result_tells_survival_iff rfl (exec_of_toOption hwon)).2.2 hstands⟩

/-- A player with a single point falls together with the rat, and has won. -/
theorem ratFight_won_without_survival :
    (ratFight 1).1.toOption = some true ∧ ¬ 0 < (ratFight 1).2.game.player.hp := by
  decide +kernel

end Gamebook.Battle

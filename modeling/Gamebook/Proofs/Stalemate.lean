import Gamebook.Proofs.Calls
import Gamebook.Proofs.FightCourse

/-!
# Fights without an end

Between a player and a foe who both do no damage no round takes a point from anyone: damage that is
negative heals, and what gets through a block is never less than nothing. So such a fight goes on
until the player breaks off, whatever the moves are. Any other fight can be brought to an end, by
attacks from both sides for as many rounds as either of them has points.

## Key results

- `Harmless.exchange`, `Harmless.afterRounds`: what a round and a row of rounds keep
- `Fought.brokenOff_of_harmless`: only the player can end a fight without damage
- `Fought.decided_of_allOut`: attacks decide any other one
- `fight_can_end_iff`: which fights can end
-/

namespace Gamebook.Battle

open Play

variable {g : Game} {w : World} {answers : List Answer} {picks : List Int}
  {happened : List Happening} {out : Except Fault Bool × World}

/-! ## Fights without damage -/

/-- A fight that `goesOn` and in which neither side does damage. -/
structure Harmless (g : Game) : Prop where
  player : g.player.damage ≤ 0
  foe : g.foe.damage ≤ 0
  goesOn : g.goesOn = true

/-- No damage gets through a block if there is none. -/
private theorem throughBlock_of_nonpos {damage : Int} (h : damage ≤ 0) :
    throughBlock damage = 0 := by
  unfold throughBlock
  omega

/-- Without damage nobody loses points in a round. -/
private theorem Harmless.loss_nonpos (h : Harmless g) (mine theirs : Move) :
    g.foeLoss mine theirs ≤ 0 ∧ g.playerLoss mine theirs ≤ 0 := by
  have hplayer := throughBlock_of_nonpos h.player
  have hfoe := throughBlock_of_nonpos h.foe
  cases mine <;> cases theirs <;>
    simp [Game.foeLoss, Game.playerLoss, hplayer, hfoe, h.player, h.foe]

/-- A fight is still `Harmless` after a round. -/
theorem Harmless.exchange (h : Harmless g) (mine theirs : Move) :
    Harmless (g.exchange mine theirs) := by
  obtain ⟨hfoe, hplayer⟩ := h.loss_nonpos mine theirs
  obtain ⟨hfight, hfoePoints, hplayerPoints⟩ := goesOn_iff.1 h.goesOn
  refine ⟨h.player, h.foe, goesOn_iff.2 ⟨hfight, ?_, ?_⟩⟩
  · show 0 < g.foe.hp - g.foeLoss mine theirs
    omega
  · show 0 < g.player.hp - g.playerLoss mine theirs
    omega

/-- A fight is still `Harmless` after a row of rounds. -/
theorem Harmless.afterRounds (h : Harmless g) (rounds : List (Move × Move)) :
    Harmless (afterRounds g rounds) := by
  induction rounds generalizing g with
  | nil => rwa [afterRounds_nil]
  | cons round rounds ih =>
    rw [afterRounds_cons]
    exact ih (h.exchange round.1 round.2)

/-- A fight that is `Harmless` ends as the player breaks off. -/
theorem Fought.brokenOff_of_harmless (h : Fought w g answers picks happened out)
    (hg : Harmless g) : out.1 = .error (breakingOff answers) := by
  cases h with
  | decided m _ _ hover =>
    -- both sides have points after any number of rounds
    rw [(hg.afterRounds _).goesOn] at hover
    cases hover
  | brokenOff => rfl

/-- `breakingOff` is by the end of the input or by an interruption. -/
private theorem breakingOff_cases (answers : List Answer) :
    (∃ ranOut, breakingOff answers = .endOfInput ranOut) ∨
      breakingOff answers = .interrupted := by
  induction answers with
  | nil => exact .inl ⟨true, rfl⟩
  | cons answer answers ih =>
    cases answer with
    | line text => exact ih
    | endOfInput => exact .inl ⟨false, rfl⟩
    | interrupt => exact .inr rfl

/-! ## Fights with damage -/

/-- The player attacks for some rounds, and so does the foe. -/
def allOut (rounds : Nat) : Occasion where
  answers := List.replicate rounds (.line "1")
  picks := List.replicate rounds 0

/-- All rounds on the occasion `allOut` are attacks of both. -/
private theorem roundsFrom_allOut (rounds : Nat) :
    roundsFrom (allOut rounds).answers (allOut rounds).picks =
      List.replicate rounds (.attack, .attack) := by
  induction rounds with
  | zero => rfl
  | succ rounds ih => exact congrArg (List.cons (.attack, .attack)) ih

/-- In a round of attacks both sides lose the other one's whole damage. -/
private theorem pointsLeft_attacks (blocked : Move × Move) (hblocked : blocked ≠ (.attack, .attack))
    (hp damage : Int) (rounds : Nat) :
    pointsLeft blocked hp damage (List.replicate rounds (.attack, .attack)) =
      hp - rounds * damage := by
  have hnone : (List.replicate rounds (Move.attack, Move.attack)).count blocked = 0 :=
    List.count_eq_zero.2 fun hmem => hblocked (List.eq_of_mem_replicate hmem)
  rw [pointsLeft, List.count_replicate_self, hnone]
  simp

/-- Damage of at least one takes all points in as many attacks as there are points. -/
private theorem sub_mul_nonpos {hp damage : Int} {rounds : Nat} (hdamage : 1 ≤ damage)
    (hrounds : hp ≤ rounds) : hp - rounds * damage ≤ 0 := by
  have hle : (rounds : Int) * 1 ≤ rounds * damage :=
    Int.mul_le_mul_of_nonneg_left hdamage (Int.natCast_nonneg rounds)
  omega

/-- If one side does damage, enough attacks decide the fight. -/
theorem Fought.decided_of_allOut {rounds : Nat}
    (h : Fought w g (allOut rounds).answers (allOut rounds).picks happened out)
    (hdamage : 1 ≤ g.player.damage ∨ 1 ≤ g.foe.damage) (hfoe : g.foe.hp ≤ rounds)
    (hplayer : g.player.hp ≤ rounds) : ∃ won v, out = (.ok won, v) := by
  cases h with
  | decided => exact ⟨_, _, rfl⟩
  | brokenOff hgoes =>
    -- after all the attacks the side that takes the damage would have points left
    have hlast := hgoes _ le_rfl
    rw [List.take_length, roundsFrom_allOut, goesOn_iff] at hlast
    simp only [afterRounds, pointsLeft_attacks (.attack, .block) (by decide),
      pointsLeft_attacks (.block, .attack) (by decide)] at hlast
    rcases hdamage with hdamage | hdamage
    · have hfell := sub_mul_nonpos hdamage hfoe
      omega
    · have hfell := sub_mul_nonpos hdamage hplayer
      omega

/-! ## Which fights can end -/

/-- A fight between a player and a foe who both have points comes to a result on some occasion
    exactly if one of them does damage. If neither does, every fight ends as the player breaks off,
    by the end of the input or by an interruption, whatever the answers and the picks are. -/
theorem fight_can_end_iff {hp damage : Amount} {points strength : Int} (name : String) {w : World}
    (hcode : Phrasebook.isCode w.phrasebook.language = true) (hhp : hp.read = .ok points)
    (hdamage : damage.read = .ok strength) (hplayer : 0 < w.game.player.hp) (hfoe : 0 < points) :
    ((∃ occasion won v, (fight hp damage name).exec (w.during occasion) = (.ok won, v)) ↔
      1 ≤ w.game.player.damage ∨ 1 ≤ strength) ∧
    (w.game.player.damage ≤ 0 → strength ≤ 0 → ∀ occasion, ∃ fault,
      ((fight hp damage name).exec (w.during occasion)).1 = .error fault ∧
        ((∃ ranOut, fault = .endOfInput ranOut) ∨ fault = .interrupted)) := by
  have hfought (occasion : Occasion) :=
    fought_fight (w := w.during occasion) name hcode hhp hdamage
  have hbroken (hmine : w.game.player.damage ≤ 0) (htheirs : strength ≤ 0) (occasion : Occasion) :
      ((fight hp damage name).exec (w.during occasion)).1 =
        .error (breakingOff occasion.answers) :=
    (hfought occasion).brokenOff_of_harmless
      ⟨hmine, htheirs, goesOn_iff.2 ⟨rfl, hfoe, hplayer⟩⟩
  refine ⟨⟨?_, fun hharm => ?_⟩, fun hmine htheirs occasion => ?_⟩
  · rintro ⟨occasion, won, v, hrun⟩
    -- without damage the fight would have been broken off
    by_contra hnone
    have hfault := hbroken (by omega) (by omega) occasion
    rw [hrun] at hfault
    cases hfault
  · -- as many rounds as the two have points together are enough for either of them
    have hdecided := hfought (allOut (points + w.game.player.hp).toNat)
    refine ⟨_, hdecided.decided_of_allOut hharm ?_ ?_⟩
    · show points ≤ _
      omega
    · show w.game.player.hp ≤ _
      omega
  · exact ⟨_, hbroken hmine htheirs occasion, breakingOff_cases _⟩

/-- A player with a single point. -/
def onePoint (damage : Int) : World where
  game := { player := { hp := 1, damage } }

/-- With a nurse, whose attacks heal, there is no end to a fight. It takes damage of one for there
    to be an end. -/
theorem nurse_fight_ends_only_with_damage :
    (∀ occasion, ∃ fault,
      ((fight (.text " 2") (.number (-3)) "Nurse").exec ((onePoint 0).during occasion)).1 =
          .error fault ∧
        ((∃ ranOut, fault = .endOfInput ranOut) ∨ fault = .interrupted)) ∧
    ∃ occasion won v,
      (fight (.text " 2") (.number (-3)) "Nurse").exec ((onePoint 1).during occasion) =
        (.ok won, v) := by
  have hread : Amount.read (.text " 2") = .ok 2 := rfl
  have hheals : Amount.read (.number (-3)) = .ok (-3) := rfl
  constructor
  · exact (fight_can_end_iff (w := onePoint 0) "Nurse" rfl hread hheals (by decide)
      (by decide)).2 (by decide) (by decide)
  · exact (fight_can_end_iff (w := onePoint 1) "Nurse" rfl hread hheals (by decide)
      (by decide)).1.2 (.inl (by decide))

end Gamebook.Battle

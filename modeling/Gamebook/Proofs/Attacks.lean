import Gamebook.Proofs.FightCourse
import Mathlib.Algebra.Order.Floor.Div

/-!
# Attacks that decide a fight

A player whose damage is at least two takes points from the foe with every attack: all of the
damage, or the half of it that gets through a block. No round gives the foe any points back. So the
attacks of the player alone bound a fight, whatever the foe does in the meantime, however often the
player blocks between two attacks, and whether the foe's damage hurts the player or heals.

## Key results

- `foe_hp_exchange_le`, `foe_hp_afterRounds_le`: what attacks take, in a round and in many
- `goesOn_of_attacks`: after enough attacks the fight is over
- `attacks_end_fight`: a fight is over with the last attack that is needed, or before
-/

namespace Gamebook.Battle

open Play

variable {g : Game} {picks : List Int} {texts : List String}

/-- How many attacks take all points of a foe if each of them is blocked. -/
def attacksNeeded (points damage : Int) : Nat := points.toNat ⌈/⌉ (damage / 2).toNat

/-- `attacksNeeded` attacks are enough. -/
private theorem le_mul_attacksNeeded (points : Int) {damage : Int} (hdamage : 2 ≤ damage) :
    points ≤ attacksNeeded points damage * (damage / 2) := by
  have hhalf : 0 < (damage / 2).toNat := by omega
  have hneeded : points.toNat ≤ (damage / 2).toNat * attacksNeeded points damage :=
    (ceilDiv_le_iff_le_mul hhalf).1 le_rfl
  have hcast : ((damage / 2).toNat : Int) = damage / 2 := Int.toNat_of_nonneg (by omega)
  -- points below zero are taken by no attacks at all
  calc points ≤ (points.toNat : Int) := Int.self_le_toNat points
    _ ≤ ((damage / 2).toNat * attacksNeeded points damage : Nat) := by exact_mod_cast hneeded
    _ = attacksNeeded points damage * (damage / 2) := by rw [Nat.cast_mul, hcast, mul_comm]

/-- It takes an attack if there are points. -/
private theorem attacksNeeded_pos {points damage : Int} (hpoints : 0 < points)
    (hdamage : 2 ≤ damage) :
    0 < attacksNeeded points damage := by
  by_contra hnone
  have hle := le_mul_attacksNeeded points hdamage
  rw [Nat.eq_zero_of_not_pos hnone] at hle
  omega

/-! ## What attacks take -/

/-- In an `exchange` the foe loses at least half of the player's damage if the player attacks, and
    never gains anything. -/
theorem foe_hp_exchange_le (hdamage : 2 ≤ g.player.damage) (mine theirs : Move) :
    (g.exchange mine theirs).foe.hp ≤
      g.foe.hp - if mine = .attack then g.player.damage / 2 else 0 := by
  show g.foe.hp - g.foeLoss mine theirs ≤ _
  cases mine with
  | attack =>
    -- blocked or not, at least half of the damage gets through
    have hloss : g.player.damage / 2 ≤ g.foeLoss .attack theirs := by
      cases theirs <;> simp only [Game.foeLoss, throughBlock] <;> omega
    rw [if_pos rfl]
    omega
  | block => simp [Game.foeLoss]

/-- In a row of rounds the foe loses at least half of the player's damage with every attack. -/
theorem foe_hp_afterRounds_le (hdamage : 2 ≤ g.player.damage) (rounds : List (Move × Move)) :
    (afterRounds g rounds).foe.hp ≤
      g.foe.hp - (rounds.map (·.1)).count .attack * (g.player.damage / 2) := by
  induction rounds generalizing g with
  | nil => simp [afterRounds_nil]
  | cons round rounds ih =>
    obtain ⟨mine, theirs⟩ := round
    have hround := foe_hp_exchange_le hdamage mine theirs
    -- the damage of the player stays what it was
    have hrest : (afterRounds (g.exchange mine theirs) rounds).foe.hp ≤
        (g.exchange mine theirs).foe.hp -
          (rounds.map (·.1)).count .attack * (g.player.damage / 2) := ih hdamage
    rw [afterRounds_cons, List.map_cons, List.count_cons]
    cases mine with
    | attack =>
      rw [if_pos rfl] at hround
      simp only [beq_self_eq_true, if_true, Nat.cast_add, Nat.cast_one, add_mul, one_mul]
      omega
    | block =>
      rw [if_neg (by decide)] at hround
      simp only [beq_iff_eq, reduceCtorEq, if_false, add_zero]
      omega

/-! ## The attacks among the answers -/

/-- The first rounds come from the first answers. -/
private theorem take_roundsFrom (answers : List Answer) (picks : List Int) (m : Nat) :
    (roundsFrom answers picks).take m = roundsFrom (answers.take m) picks := by
  induction answers generalizing picks m with
  | nil => simp [roundsFrom]
  | cons answer answers ih =>
    cases m with
    | zero => simp [roundsFrom]
    | succ m => cases answer <;> simp [roundsFrom, ih]

/-- The player's moves are those of the lines that were typed. -/
private theorem moves_roundsFrom (texts : List String) (picks : List Int) :
    (roundsFrom (texts.map .line) picks).map (·.1) = texts.map moveOf := by
  induction texts generalizing picks with
  | nil => rfl
  | cons text texts ih => simp [roundsFrom, ih]

/-- The player attacks as often as the answer is `1`. -/
private theorem count_map_moveOf (texts : List String) :
    (texts.map moveOf).count .attack = texts.count "1" := by
  induction texts with
  | nil => rfl
  | cons text texts ih => by_cases h : text = "1" <;> simp [moveOf, h, ih]

/-- After enough attacks the fight no longer `goesOn`. -/
theorem goesOn_of_attacks (hdamage : 2 ≤ g.player.damage) {m : Nat}
    (hattacks : attacksNeeded g.foe.hp g.player.damage ≤ (texts.take m).count "1") :
    (afterRounds g ((roundsFrom (texts.map .line) picks).take m)).goesOn = false := by
  have hlost := foe_hp_afterRounds_le hdamage ((roundsFrom (texts.map .line) picks).take m)
  rw [take_roundsFrom, ← List.map_take, moves_roundsFrom, count_map_moveOf] at hlost
  have hhalf : 0 ≤ g.player.damage / 2 := by omega
  -- the attacks so far have taken all the points that the foe had
  have henough : g.foe.hp ≤ (texts.take m).count "1" * (g.player.damage / 2) :=
    (le_mul_attacksNeeded g.foe.hp hdamage).trans
      (Int.mul_le_mul_of_nonneg_right (by exact_mod_cast hattacks) hhalf)
  rw [take_roundsFrom, ← List.map_take]
  refine Bool.eq_false_iff.2 fun hgoes => ?_
  have hfoe := (goesOn_iff.1 hgoes).2.1
  omega

/-- A list that holds something `n` times can be cut at the `n`-th place where it stands. -/
private theorem exists_append_of_le_count {α : Type} [DecidableEq α] {a : α} {n : Nat}
    (hpos : 0 < n) {l : List α} (h : n ≤ l.count a) :
    ∃ before after, l = before ++ a :: after ∧ before.count a + 1 = n := by
  induction l generalizing n with
  | nil => simp at h; omega
  | cons b l ih =>
    -- the last of the `n` is the first element, or it is looked for behind it
    by_cases hb : b = a
    · subst hb
      rw [List.count_cons_self] at h
      by_cases hone : n = 1
      · exact ⟨[], l, rfl, by simp [hone]⟩
      · obtain ⟨before, after, rfl, hcount⟩ := ih (n := n - 1) (by omega) (by omega)
        exact ⟨b :: before, after, rfl, by rw [List.count_cons_self]; omega⟩
    · rw [List.count_cons_of_ne hb] at h
      obtain ⟨before, after, rfl, hcount⟩ := ih hpos h
      exact ⟨b :: before, after, rfl, by rwa [List.count_cons_of_ne hb]⟩

/-! ## Fights -/

/-- A player with damage of at least two brings every fight to an end by attacks, if the foe does
    not do so before. When there are as many attacks among the answers as it takes if all of them
    are blocked, the fight has a result, and no answer behind the last of these attacks is used
    up. -/
theorem attacks_end_fight {hp damage : Amount} {points strength : Int} (name : String) {w : World}
    (hcode : Phrasebook.isCode w.phrasebook.language = true) (hhp : hp.read = .ok points)
    (hdamage : damage.read = .ok strength) (hstrong : 2 ≤ w.game.player.damage)
    (hfoe : 0 < points)
    (hanswers : w.console.answers = texts.map .line)
    (hattacks : attacksNeeded points w.game.player.damage ≤ texts.count "1") :
    ∃ before after, texts = before ++ "1" :: after ∧
      before.count "1" + 1 = attacksNeeded points w.game.player.damage ∧
      ∃ won v rest, (fight hp damage name).exec w = (.ok won, v) ∧
        v.console.answers = rest.map .line ∧ rest <:+ texts ∧ after <:+ rest := by
  obtain ⟨before, after, htexts, hcount⟩ :=
    exists_append_of_le_count (attacksNeeded_pos hfoe hstrong) hattacks
  refine ⟨before, after, htexts, hcount, ?_⟩
  -- with the last attack that is needed the fight is over, if it has come to that
  have hcut : texts = before ++ ["1"] ++ after := by simp [htexts]
  have hlength : (before ++ ["1"]).length = before.length + 1 := List.length_append
  have hover : (afterRounds (facing w.game ⟨name, points, strength⟩)
      ((roundsFrom (texts.map .line) w.console.picks).take (before.length + 1))).goesOn =
        false := by
    refine goesOn_of_attacks (g := facing w.game ⟨name, points, strength⟩) hstrong ?_
    rw [hcut, ← hlength, List.take_left, List.count_append, List.count_singleton_self]
    exact hcount.ge
  have hfought := fought_fight name hcode hhp hdamage
  rw [hanswers] at hfought
  generalize (fight hp damage name).exec w = out at hfought ⊢
  cases hfought with
  | decided m _ hbefore _ =>
    have hm : m ≤ before.length + 1 := by
      -- a fight that went on longer would have gone on past its end
      by_contra hlater
      rw [hbefore (before.length + 1) (by omega)] at hover
      cases hover
    refine ⟨_, _, texts.drop m, rfl, (List.map_drop).symm, List.drop_suffix m texts, ?_⟩
    have hafter : texts.drop (before.length + 1) = after := by
      rw [hcut, ← hlength, List.drop_left]
    rw [← hafter]
    exact List.drop_suffix_drop_left texts hm
  | brokenOff hgoes =>
    -- all lines are rounds, so the last attack that is needed is among them
    have hrounds : before.length + 1 ≤ (roundsFrom (texts.map .line) w.console.picks).length := by
      have hmoves := congrArg List.length (moves_roundsFrom texts w.console.picks)
      rw [List.length_map, List.length_map, hcut, List.length_append, hlength] at hmoves
      rw [hcut]
      omega
    rw [hgoes _ hrounds] at hover
    cases hover

/-- A player who does not attack at once, with damage of which a block lets two through. -/
def hesitant : World where
  game := { player := { hp := 9, damage := 5 } }
  console :=
    { answers := ["2", "1", " 1", "1", "1"].map .line, picks := [0, 1, 1, 1] }

/-- Two attacks are enough for a foe of three points, even if both are blocked. -/
theorem hesitant_attacks_end_fight :
    attacksNeeded 3 5 = 2 ∧
    ∃ before after, ["2", "1", " 1", "1", "1"] = before ++ "1" :: after ∧
      before.count "1" + 1 = 2 ∧
      ∃ won v rest, (fight (.text "3") (.number 2) "Rat").exec hesitant = (.ok won, v) ∧
        v.console.answers = rest.map .line ∧ rest <:+ ["2", "1", " 1", "1", "1"] ∧
        after <:+ rest := by
  have hread : Amount.read (.text "3") = .ok 3 := rfl
  have hhurts : Amount.read (.number 2) = .ok 2 := rfl
  exact ⟨by decide, attacks_end_fight (w := hesitant) "Rat" rfl hread hhurts (by decide)
    (by decide) rfl (by decide)⟩

end Gamebook.Battle

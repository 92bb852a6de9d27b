import Gamebook.Proofs.Fights

/-!
# The course of a fight

The answers and the picks of a fight give its rounds: every line that the player types is one, up to
the first answer that is no line. What a round takes from either side depends on the two moves only.
So after any number of rounds the points of both sides are known from how often each pair of moves
has come up, and the fight is over at the first number of rounds that leaves one side without any.
If the rounds come to their end before that, the player has broken off.

What happens on the way is told by `course`, as a list of messages, questions and draws. A language
that is a code only puts it into words, with `Happening.event`.

## Key results

- `afterRounds_cons`: the closed form of the points, one round at a time
- `exec_round_later`, `exec_resolve_later`: what a round does with an answer
- `fought_rounds`: how a row of rounds ends
- `fight_in_closed_form`: how a fight ends
-/

namespace Gamebook

open Play

/-! ## What happens in a fight -/

namespace Battle

/-- Something that happens in a fight, before it is put into words. -/
inductive Happening where
  | told (key : String) (args : List Template.Arg)
  | asked (key : String)
  | drawn (move : Move)

namespace Happening

/-- A happening in the words of a phrasebook. -/
def event (b : Phrasebook) : Happening → Event
  | .told key args => .print (b.words key args)
  | .asked key => .ask (b.words key [])
  | .drawn move => .draw move

/-- Whether a happening is the message that a fight is won or lost. -/
def isVerdict : Happening → Bool
  | .told key _ => key == "victory" || key == "defeat"
  | _ => false

end Happening

/-- What happens before the first round. -/
def opening (g : Game) : List Happening :=
  [.told "fight_title" [.text (Text.upper g.foe.name)],
   .told "enemy_stats" [.int g.foe.damage, .int g.foe.hp],
   .told "player_stats" [.int g.player.damage, .int g.player.hp]]

/-- How the player is asked for a move. -/
def question : List Happening :=
  [.told "player_turn" [], .told "attack_option" [], .told "block_option" [],
   .asked "choose_action"]

/-- What is told of two moves. -/
def blows (g : Game) : (mine theirs : Move) → List Happening
  | .attack, .attack =>
    [.told "player_attacked" [.text g.foe.name, .int g.player.damage],
     .told "enemy_attacked" [.text g.foe.name, .int g.foe.damage]]
  | .attack, .block =>
    [.told "blocked_attack" [.text g.foe.name],
     .told "damage_dealt" [.int (throughBlock g.player.damage)]]
  | .block, .attack =>
    [.told "enemy_blocked" [.text g.foe.name],
     .told "damage_taken" [.int (throughBlock g.foe.damage)]]
  | .block, .block => [.told "both_blocked" []]

/-- What is told of a round, given the game after it: the moves, and the points that are left. -/
def outcome (g : Game) (mine theirs : Move) : List Happening :=
  blows g mine theirs ++
    [.told "enemy_hp" [.text g.foe.name, .int g.foe.hp], .told "player_hp" [.int g.player.hp]]

/-- What happens in a round, given the game after it. -/
def roundCourse (g : Game) (mine theirs : Move) : List Happening :=
  question ++ .drawn theirs :: outcome g mine theirs

/-- What happens in rounds, given the game before them. -/
def course : Game → List (Move × Move) → List Happening
  | _, [] => []
  | g, (mine, theirs) :: rounds =>
    roundCourse (g.exchange mine theirs) mine theirs ++ course (g.exchange mine theirs) rounds

/-- The message at the end of a fight that had a round: the foe is looked at first. -/
def verdict (g : Game) : Happening :=
  if g.foe.hp ≤ 0 then .told "victory" [.text g.foe.name] else .told "defeat" [.text g.foe.name]

/-! ## Rounds and points -/

/-- The rounds that some answers and picks give. -/
def roundsFrom : List Answer → List Int → List (Move × Move)
  | .line text :: answers, picks =>
    (moveOf text, ({ picks } : Console).nextMove) :: roundsFrom answers picks.tail
  | _, _ => []

/-- The fault with which the player breaks off, behind the lines among some answers. -/
def breakingOff : List Answer → Fault
  | [] => .endOfInput true
  | .line _ :: answers => breakingOff answers
  | .endOfInput :: _ => .endOfInput false
  | .interrupt :: _ => .interrupted

/-- The points of a fighter after some rounds, given the other one's damage, and the moves of the
    rounds in which this fighter blocks it. -/
def pointsLeft (blocked : Move × Move) (hp damage : Int) (rounds : List (Move × Move)) : Int :=
  hp - rounds.count (.attack, .attack) * damage - rounds.count blocked * max 0 (damage / 2)

/-- The game after some rounds. -/
def afterRounds (g : Game) (rounds : List (Move × Move)) : Game :=
  { g with
    player := { g.player with hp := pointsLeft (.block, .attack) g.player.hp g.foe.damage rounds }
    foe := { g.foe with hp := pointsLeft (.attack, .block) g.foe.hp g.player.damage rounds } }

variable {g : Game} {w : World}

/-- `pointsLeft` one round at a time: a round takes its damage from the points, whole or blocked,
    and the rounds behind it go on from there. -/
private theorem pointsLeft_cons (blocked : Move × Move) (hp damage : Int) (round : Move × Move)
    (rounds : List (Move × Move)) :
    pointsLeft blocked hp damage (round :: rounds) =
      pointsLeft blocked (hp - (if round = (.attack, .attack) then damage else 0) -
        (if round = blocked then max 0 (damage / 2) else 0)) damage rounds := by
  simp only [pointsLeft, List.count_cons, beq_iff_eq]
  split <;> split <;> grind

theorem afterRounds_nil (g : Game) : afterRounds g [] = g := by
  simp [afterRounds, pointsLeft]

/-- `afterRounds` one round at a time: the closed form of the points agrees with `exchange`. -/
theorem afterRounds_cons (g : Game) (mine theirs : Move) (rounds : List (Move × Move)) :
    afterRounds g ((mine, theirs) :: rounds) = afterRounds (g.exchange mine theirs) rounds := by
  cases mine <;> cases theirs <;>
    simp [afterRounds, pointsLeft_cons, Game.exchange, Game.foeLoss, Game.playerLoss, throughBlock]

/-! ## A fight in a world -/

/-- A world in which a fight has gone on: the game, the answers and the picks that are left, and
    what has happened in the meantime. -/
def later (w : World) (game : Game) (answers : List Answer) (picks : List Int)
    (happened : List Happening) : World :=
  { w with
    game
    console :=
      { answers, picks
        events := w.console.events ++ (happened.map (·.event w.phrasebook)).toArray } }

variable {answers : List Answer} {picks : List Int} {happened : List Happening}

private theorem exec_modifyGame_later (f : Game → Game) :
    (modifyGame f).exec (later w g answers picks happened) =
      (.ok (), later w (f g) answers picks happened) := rfl

/-- `draw` takes the first of the picks that are left. -/
private theorem exec_draw_later :
    draw.exec (later w g answers picks happened) =
      (.ok ({ picks } : Console).nextMove, later w g answers picks.tail
        (happened ++ [.drawn ({ picks } : Console).nextMove])) := by
  rw [exec_draw]
  simp [later, Console.drawn, Console.log, Console.nextMove, Happening.event]

private theorem exec_finish_later (won : Bool) :
    (finish won).exec (later w g answers picks happened) =
      (.ok (some won), later w { g with inFight := false } answers picks happened) := rfl

section

variable (hcode : Phrasebook.isCode w.phrasebook.language = true)

include hcode

/-- `tell` adds a message to what has happened. -/
private theorem exec_tell_later (key : String) (args : List Template.Arg) :
    (tell key args).exec (later w g answers picks happened) =
      (.ok (), later w g answers picks (happened ++ [.told key args])) := by
  rw [exec_tell_of_isCode (w := later w g answers picks happened) hcode]
  simp [later, Console.log, Happening.event]

/-- `askPhrase` adds a question to what has happened, and takes the first of the answers that are
    left. -/
private theorem exec_askPhrase_later (key : String) :
    (askPhrase key []).exec (later w g answers picks happened) =
      match answers with
      | [] =>
        (.error (.endOfInput true), later w g [] picks (happened ++ [.asked key]))
      | answer :: answers =>
        (reply answer, later w g answers picks (happened ++ [.asked key])) := by
  rw [exec_askPhrase_of_isCode (w := later w g answers picks happened) hcode, exec_ask]
  cases answers <;> simp [later, Console.log, Happening.event]

/-- `report` adds the `blows` of a round to what has happened. -/
private theorem exec_report_later (shown : Game) (mine theirs : Move) :
    (report shown mine theirs).exec (later w g answers picks happened) =
      (.ok (), later w g answers picks (happened ++ blows shown mine theirs)) := by
  cases mine <;> cases theirs <;> simp [report, exec_bind, exec_tell_later hcode, blows]

/-! ## Rounds in a world -/

/-- `resolve` is the rest of a round, behind the player's move. It decides the fight unless both
    sides have points left. -/
theorem exec_resolve_later {mine theirs : Move} {after : Game}
    (htheirs : ({ picks } : Console).nextMove = theirs) (hafter : g.exchange mine theirs = after) :
    (resolve mine).exec (later w g answers picks happened) =
      if 0 < after.foe.hp ∧ 0 < after.player.hp then
        (.ok none, later w after answers picks.tail
          (happened ++ .drawn theirs :: outcome after mine theirs))
      else
        (.ok (some (decide (after.foe.hp ≤ 0))),
          later w { after with inFight := false } answers picks.tail
            (happened ++ .drawn theirs :: outcome after mine theirs ++ [verdict after])) := by
  have hgame (happened' : List Happening) :
      (later w after answers picks.tail happened').game = after := rfl
  -- the messages of the round one by one are its `outcome`
  have hlist : happened ++ [.drawn theirs] ++ blows after mine theirs ++
      [.told "enemy_hp" [.text after.foe.name, .int after.foe.hp]] ++
      [.told "player_hp" [.int after.player.hp]] =
        happened ++ .drawn theirs :: outcome after mine theirs := by
    simp [outcome]
  rw [resolve, exec_bind_of_ok exec_draw_later, htheirs,
    exec_bind_of_ok (exec_modifyGame_later _), hafter, exec_bind_of_ok (exec_get _), hgame,
    exec_bind_of_ok (exec_report_later hcode _ _ _), exec_bind_of_ok (exec_tell_later hcode _ _),
    exec_bind_of_ok (exec_tell_later hcode _ _), hlist]
  -- the foe is looked at first, and the player only if the foe has points
  by_cases hfoe : after.foe.hp ≤ 0
  · have hover : ¬ (0 < after.foe.hp ∧ 0 < after.player.hp) := by omega
    simp only [hfoe, hover, if_true, if_false, exec_bind, exec_tell_later hcode, exec_finish_later,
      verdict, decide_true]
  · by_cases hplayer : after.player.hp ≤ 0
    · have hover : ¬ (0 < after.foe.hp ∧ 0 < after.player.hp) := by omega
      simp only [hfoe, hplayer, hover, if_true, if_false, exec_bind, exec_tell_later hcode,
        exec_finish_later, verdict, decide_false]
    · have hboth : 0 < after.foe.hp ∧ 0 < after.player.hp := by omega
      simp only [hfoe, hplayer, hboth, and_self, if_true, if_false, exec_pure]

/-- A `round` that can be fought asks for a move and goes on with the answer. -/
theorem exec_round_later (hgoes : g.goesOn = true) :
    round.exec (later w g answers picks happened) =
      match answers with
      | [] => (.error (.endOfInput true), later w g [] picks (happened ++ question))
      | answer :: answers =>
        match reply answer with
        | .ok text => (resolve (moveOf text)).exec (later w g answers picks (happened ++ question))
        | .error f => (.error f, later w g answers picks (happened ++ question)) := by
  have hgame : (later w g answers picks happened).game = g := rfl
  have hlist : happened ++ [.told "player_turn" []] ++ [.told "attack_option" []] ++
      [.told "block_option" []] ++ [.asked "choose_action"] = happened ++ question := by
    simp [question]
  rw [round, exec_bind_of_ok (exec_get _), hgame]
  simp only [hgoes, Bool.not_true, Bool.false_eq_true, if_false]
  rw [exec_bind_of_ok (exec_tell_later hcode _ _), exec_bind_of_ok (exec_tell_later hcode _ _),
    exec_bind_of_ok (exec_tell_later hcode _ _), exec_bind, exec_askPhrase_later hcode, hlist]
  -- the question is asked in any case; what comes next is up to the answer
  cases answers with
  | nil => rfl
  | cons answer answers => cases answer <;> rfl

end

/-- A `round` that cannot be fought ends the fight without a word. -/
private theorem exec_round_later_of_over (hgoes : g.goesOn = false) :
    round.exec (later w g answers picks happened) =
      (.ok (some (decide (0 < g.player.hp))),
        later w { g with inFight := false } answers picks happened) := by
  have hgame : (later w g answers picks happened).game = g := rfl
  rw [round, exec_bind_of_ok (exec_get _), hgame]
  simp only [hgoes, Bool.not_false, if_true, exec_finish_later]

/-! ## Rows of rounds -/

/-- `Fought w g answers picks happened out`: how a row of rounds ends that starts with a game `g`,
    with these answers and picks, and after these happenings. -/
inductive Fought (w : World) (g : Game) (answers : List Answer) (picks : List Int)
    (happened : List Happening) : Except Fault Bool × World → Prop where
  /-- After `m` rounds, and not before, one side has no points left. -/
  | decided (m : Nat) (hm : m ≤ (roundsFrom answers picks).length)
      (hbefore : ∀ j < m, (afterRounds g ((roundsFrom answers picks).take j)).goesOn = true)
      (hover : (afterRounds g ((roundsFrom answers picks).take m)).goesOn = false) :
      Fought w g answers picks happened
        (.ok (decide (1 ≤ m ∧ (afterRounds g ((roundsFrom answers picks).take m)).foe.hp ≤ 0 ∨
            0 < (afterRounds g ((roundsFrom answers picks).take m)).player.hp)),
          later w { afterRounds g ((roundsFrom answers picks).take m) with inFight := false }
            (answers.drop m) (picks.drop m)
            (happened ++ course g ((roundsFrom answers picks).take m) ++
              if m = 0 then [] else [verdict (afterRounds g ((roundsFrom answers picks).take m))]))
  /-- After all rounds both sides have points left, and the player breaks off. -/
  | brokenOff (hgoes : ∀ j ≤ (roundsFrom answers picks).length,
        (afterRounds g ((roundsFrom answers picks).take j)).goesOn = true) :
      Fought w g answers picks happened
        (.error (breakingOff answers),
          later w (afterRounds g (roundsFrom answers picks))
            (answers.drop ((roundsFrom answers picks).length + 1))
            (picks.drop (roundsFrom answers picks).length)
            (happened ++ course g (roundsFrom answers picks) ++ question))

/-- A round in front of a row of rounds that were `Fought`, if it decides nothing. -/
theorem Fought.cons {text : String} {theirs : Move} {out : Except Fault Bool × World}
    (htheirs : ({ picks } : Console).nextMove = theirs) (hgoes : g.goesOn = true)
    (hafter : (g.exchange (moveOf text) theirs).goesOn = true)
    (h : Fought w (g.exchange (moveOf text) theirs) answers picks.tail
      (happened ++ roundCourse (g.exchange (moveOf text) theirs) (moveOf text) theirs) out) :
    Fought w g (.line text :: answers) picks happened out := by
  have hrounds : roundsFrom (.line text :: answers) picks =
      (moveOf text, theirs) :: roundsFrom answers picks.tail := by rw [roundsFrom, htheirs]
  -- both sides have points before the rounds if they have points before and after the first one
  have hshift {n : Nat} (hrest : ∀ j < n,
      (afterRounds (g.exchange (moveOf text) theirs)
        ((roundsFrom answers picks.tail).take j)).goesOn = true) :
      ∀ j < n + 1,
        (afterRounds g ((roundsFrom (.line text :: answers) picks).take j)).goesOn = true := by
    intro j hj
    cases j with
    | zero => rwa [List.take_zero, afterRounds_nil]
    | succ j =>
      rw [hrounds, List.take_succ_cons, afterRounds_cons]
      exact hrest j (by omega)
  cases h with
  | decided m hm hbefore hover =>
    -- the rest has a round of its own, since both sides have points when it starts
    have hpos : m ≠ 0 := by
      rintro rfl
      rw [List.take_zero, afterRounds_nil, hafter] at hover
      cases hover
    have hdone := @decided w g (.line text :: answers) picks happened (m + 1)
      (by rw [hrounds]; simpa using hm) (hshift hbefore)
      (by rw [hrounds, List.take_succ_cons, afterRounds_cons]; exact hover)
    have hfirst : 1 ≤ m := by omega
    simpa [hrounds, afterRounds_cons, course, hpos, hfirst] using hdone
  | brokenOff hgoes' =>
    have hdone := @brokenOff w g (.line text :: answers) picks happened fun j hj =>
      hshift (n := (roundsFrom answers picks.tail).length + 1)
        (fun i hi => hgoes' i (by omega)) j (by rw [hrounds, List.length_cons] at hj; omega)
    simpa [hrounds, afterRounds_cons, course, breakingOff] using hdone

/-- There is no round if one side has no points to begin with. -/
private theorem Fought.of_over (hgoes : g.goesOn = false) :
    Fought w g answers picks happened
      (.ok (decide (0 < g.player.hp)),
        later w { g with inFight := false } answers picks happened) := by
  have hdone := @decided w g answers picks happened 0 (Nat.zero_le _)
    (fun j hj => absurd hj (Nat.not_lt_zero j)) (by rwa [List.take_zero, afterRounds_nil])
  simpa [afterRounds_nil, course] using hdone

/-- The player breaks off before the first round. -/
private theorem Fought.of_break (hgoes : g.goesOn = true) (hnone : roundsFrom answers picks = []) :
    Fought w g answers picks happened
      (.error (breakingOff answers),
        later w g (answers.drop 1) picks (happened ++ question)) := by
  have hdone := @brokenOff w g answers picks happened fun j _ => by
    rwa [hnone, List.take_nil, afterRounds_nil]
  simpa [hnone, afterRounds_nil, course] using hdone

/-- The first round decides. -/
private theorem Fought.of_decided {text : String} {theirs : Move} {after : Game}
    (htheirs : ({ picks } : Console).nextMove = theirs)
    (hafter : g.exchange (moveOf text) theirs = after) (hgoes : g.goesOn = true)
    (hover : ¬ (0 < after.foe.hp ∧ 0 < after.player.hp)) :
    Fought w g (.line text :: answers) picks happened
      (.ok (decide (after.foe.hp ≤ 0)),
        later w { after with inFight := false } answers picks.tail
          (happened ++ roundCourse after (moveOf text) theirs ++ [verdict after])) := by
  have hrounds : roundsFrom (.line text :: answers) picks =
      (moveOf text, theirs) :: roundsFrom answers picks.tail := by rw [roundsFrom, htheirs]
  have hone : afterRounds g ((roundsFrom (.line text :: answers) picks).take 1) = after := by
    rw [hrounds, List.take_succ_cons, List.take_zero, afterRounds_cons, afterRounds_nil, hafter]
  have hdone := @decided w g (.line text :: answers) picks happened 1 (by simp [hrounds])
    (fun j hj => by
      obtain rfl : j = 0 := by omega
      rwa [List.take_zero, afterRounds_nil])
    (by
      rw [hone]
      exact Bool.eq_false_iff.2 fun h => hover (goesOn_iff.1 h).2)
  -- the foe is looked at first, so a foe that has points means that the player has none
  have hwon : (after.foe.hp ≤ 0 ∨ 0 < after.player.hp) ↔ after.foe.hp ≤ 0 := by omega
  rw [hone] at hdone
  simpa [hrounds, course, hafter, hwon] using hdone

/-- How a row of rounds is `Fought`. Induction on the answers: a line is a round, and any other
    answer breaks off. -/
theorem fought_rounds (hcode : Phrasebook.isCode w.phrasebook.language = true)
    (hfight : g.inFight = true) :
    Fought w g answers picks happened
      ((untilResult round (answers.length + 1)).exec (later w g answers picks happened)) := by
  induction answers generalizing g picks happened with
  | nil =>
    rw [exec_untilResult_succ]
    cases hgoes : g.goesOn
    · rw [exec_round_later_of_over hgoes]
      exact .of_over hgoes
    · rw [exec_round_later hcode hgoes]
      exact .of_break hgoes rfl
  | cons answer answers ih =>
    rw [exec_untilResult_succ]
    cases hgoes : g.goesOn
    · rw [exec_round_later_of_over hgoes]
      exact .of_over hgoes
    · rw [exec_round_later hcode hgoes]
      cases answer with
      | endOfInput => exact .of_break hgoes rfl
      | interrupt => exact .of_break hgoes rfl
      | line text =>
        generalize htheirs : ({ picks } : Console).nextMove = theirs
        generalize hafter : g.exchange (moveOf text) theirs = after
        have hcourse : happened ++ question ++ .drawn theirs :: outcome after (moveOf text) theirs =
            happened ++ roundCourse after (moveOf text) theirs := by
          simp [roundCourse]
        simp only [reply]
        rw [exec_resolve_later hcode htheirs hafter, hcourse]
        -- the rest of the answers goes on where this round has left both sides
        by_cases hboth : 0 < after.foe.hp ∧ 0 < after.player.hp
        · have hstill : after.inFight = true := by rw [← hafter]; exact hfight
          rw [if_pos hboth]
          subst hafter
          exact (ih hstill).cons htheirs hgoes (goesOn_iff.2 ⟨hstill, hboth⟩)
        · rw [if_neg hboth]
          exact .of_decided htheirs hafter hgoes hboth

/-! ## Fights -/

/-- No message of a round says that the fight is won or lost. -/
private theorem isVerdict_of_mem_roundCourse (g : Game) (mine theirs : Move) :
    ∀ h ∈ roundCourse g mine theirs, h.isVerdict = false := by
  cases mine <;> cases theirs <;>
    simp [roundCourse, question, outcome, blows, Happening.isVerdict]

/-- No message before the end of a fight says that it is won or lost. -/
private theorem isVerdict_of_mem_course (g : Game) (rounds : List (Move × Move)) :
    ∀ h ∈ opening g ++ course g rounds, h.isVerdict = false := by
  have hopening (g : Game) : ∀ h ∈ opening g, h.isVerdict = false := by
    simp [opening, Happening.isVerdict]
  have hcourse : ∀ h ∈ course g rounds, h.isVerdict = false := by
    induction rounds generalizing g with
    | nil => simp [course]
    | cons round rounds ih =>
      intro h hmem
      rcases List.mem_append.1 hmem with hmem | hmem
      · exact isVerdict_of_mem_roundCourse _ _ _ h hmem
      · exact ih _ h hmem
  intro h hmem
  exact (List.mem_append.1 hmem).elim (hopening g h) (hcourse h)

/-- A game in which a foe has just been brought in. -/
def facing (g : Game) (foe : Foe) : Game := { g with inFight := true, foe }

/-- A `fight` in which the foe can be brought in is announced, and then `Fought` out in rounds. -/
theorem fought_fight {hp damage : Amount} {points strength : Int} (name : String)
    (hcode : Phrasebook.isCode w.phrasebook.language = true) (hhp : hp.read = .ok points)
    (hdamage : damage.read = .ok strength) :
    Fought w (facing w.game ⟨name, points, strength⟩) w.console.answers w.console.picks
      (opening (facing w.game ⟨name, points, strength⟩)) ((fight hp damage name).exec w) := by
  generalize hg : facing w.game ⟨name, points, strength⟩ = g
  -- the foe is brought in before anything has happened
  have hmeet : (meet hp damage name).exec w =
      (.ok (), later w g w.console.answers w.console.picks []) := by
    rw [exec_meet, hhp, hdamage, ← hg]
    simp [later, facing]
  have hgame : (later w g w.console.answers w.console.picks []).game = g := rfl
  have hfight : g.inFight = true := by rw [← hg]; rfl
  rw [fight, exec_bind_of_ok hmeet, exec_bind_of_ok (exec_get _), hgame,
    exec_bind_of_ok (exec_tell_later hcode _ _), exec_bind_of_ok (exec_tell_later hcode _ _),
    exec_bind_of_ok (exec_tell_later hcode _ _), exec_repeatTurn]
  exact fought_rounds hcode hfight

/-- The rounds that can be fought in a world. -/
def roundsIn (w : World) : List (Move × Move) := roundsFrom w.console.answers w.console.picks

/-- The points of a foe, who has so many to begin with, after `m` rounds in a world. -/
def foeAfter (w : World) (points : Int) (m : Nat) : Int :=
  pointsLeft (.attack, .block) points w.game.player.damage ((roundsIn w).take m)

/-- The player's points after `m` rounds in a world, with a foe of this strength. -/
def playerAfter (w : World) (strength : Int) (m : Nat) : Int :=
  pointsLeft (.block, .attack) w.game.player.hp strength ((roundsIn w).take m)

/-- What has happened after `m` rounds in a world, with this foe. -/
def courseAfter (w : World) (foe : Foe) (m : Nat) : List Happening :=
  opening (facing w.game foe) ++ course (facing w.game foe) ((roundsIn w).take m)

/-- A fight in closed form. It stops at the first number `m` of rounds after which one side has no
    points left, and is won if the foe has fallen in a round or the player still stands. If there
    are not enough rounds for that, it ends as the player breaks off. Either way the points are
    those after the rounds that were fought, and a single message says who has won: the last one, if
    there was a round. -/
theorem fight_in_closed_form {hp damage : Amount} {points strength : Int} (name : String)
    {w : World} (hcode : Phrasebook.isCode w.phrasebook.language = true)
    (hhp : hp.read = .ok points) (hdamage : damage.read = .ok strength) :
    (∀ m, ∀ h ∈ courseAfter w ⟨name, points, strength⟩ m, h.isVerdict = false) ∧
    ∃ m ≤ (roundsIn w).length,
      (∀ j < m, 0 < foeAfter w points j ∧ 0 < playerAfter w strength j) ∧
      ((foeAfter w points m ≤ 0 ∨ playerAfter w strength m ≤ 0) ∧
        (fight hp damage name).exec w =
          (.ok (decide (1 ≤ m ∧ foeAfter w points m ≤ 0 ∨ 0 < playerAfter w strength m)),
            later w
              { player := ⟨playerAfter w strength m, w.game.player.damage⟩
                foe := ⟨name, foeAfter w points m, strength⟩
                inFight := false }
              (w.console.answers.drop m) (w.console.picks.drop m)
              (courseAfter w ⟨name, points, strength⟩ m ++
                if m = 0 then []
                else [if foeAfter w points m ≤ 0 then .told "victory" [.text name]
                  else .told "defeat" [.text name]])) ∨
      (m = (roundsIn w).length ∧ 0 < foeAfter w points m ∧ 0 < playerAfter w strength m) ∧
        (fight hp damage name).exec w =
          (.error (breakingOff w.console.answers),
            later w
              { player := ⟨playerAfter w strength m, w.game.player.damage⟩
                foe := ⟨name, foeAfter w points m, strength⟩
                inFight := true }
              (w.console.answers.drop (m + 1)) (w.console.picks.drop m)
              (courseAfter w ⟨name, points, strength⟩ m ++ question))) := by
  refine ⟨fun m => isVerdict_of_mem_course _ _, ?_⟩
  -- in terms of the closed form, the fight goes on while both sides have points
  have hgoes (m : Nat) :
      (afterRounds (facing w.game ⟨name, points, strength⟩) ((roundsIn w).take m)).goesOn = true ↔
        0 < foeAfter w points m ∧ 0 < playerAfter w strength m :=
    goesOn_iff.trans (and_iff_right rfl)
  have hfought := fought_fight name hcode hhp hdamage
  generalize (fight hp damage name).exec w = out at hfought ⊢
  cases hfought with
  | decided m hm hbefore hover =>
    -- the number of rounds is the one at which the rounds were stopped
    have hnot : ¬ (0 < foeAfter w points m ∧ 0 < playerAfter w strength m) := by
      rw [← hgoes m, Bool.not_eq_true]
      exact hover
    refine ⟨m, hm, fun j hj => (hgoes j).1 (hbefore j hj), .inl ⟨by omega, rfl⟩⟩
  | brokenOff hall =>
    -- all rounds were fought, and the player broke off behind them
    refine ⟨(roundsIn w).length, le_rfl, fun j hj => (hgoes j).1 (hall j hj.le), .inr ⟨?_, ?_⟩⟩
    · exact ⟨rfl, (hgoes _).1 (hall _ le_rfl)⟩
    · simp only [foeAfter, playerAfter, courseAfter, List.take_length]
      rfl

/-- A player who blocks once and then attacks twice, and breaks off if that is not enough. -/
def blockThenAttack : World where
  game := { player := { hp := 3, damage := 5 } }
  console := { answers := [.line "2", .line "1", .line "1", .interrupt], picks := [0, 1, 0] }

/-- A foe whose damage is negative: a block keeps it from healing the player, and an attack does
    not. -/
theorem blockThenAttack_in_closed_form : ∃ v,
    (fight (.text " 6") (.number (-3)) "Rat").exec blockThenAttack = (.ok true, v) ∧
      v.game = ⟨⟨6, 5⟩, ⟨"Rat", -1, -3⟩, false⟩ ∧ v.console.answers = [.interrupt] := by
  have hread : Amount.read (.text " 6") = .ok 6 := rfl
  have hcode : Phrasebook.isCode blockThenAttack.phrasebook.language = true := rfl
  have hlength : (roundsIn blockThenAttack).length = 3 := by decide
  have hgoes : ∀ j < 3,
      0 < foeAfter blockThenAttack 6 j ∧ 0 < playerAfter blockThenAttack (-3) j := by
    decide
  have hfell : foeAfter blockThenAttack 6 3 = -1 := by decide
  have hhealed : playerAfter blockThenAttack (-3) 3 = 6 := by decide
  obtain ⟨-, m, hm, -, ⟨hover, hfight⟩ | ⟨⟨rfl, hfoe, -⟩, -⟩⟩ :=
    fight_in_closed_form "Rat" hcode hread (show Amount.read (.number (-3)) = .ok (-3) from rfl)
  · -- both sides have points left after fewer than three rounds
    obtain rfl : m = 3 := by
      rw [hlength] at hm
      by_contra hne
      have := hgoes m (by omega)
      omega
    rw [hfell, hhealed] at hfight
    exact ⟨_, hfight, rfl, rfl⟩
  · rw [hlength, hfell] at hfoe
    cases hfoe

end Battle

end Gamebook

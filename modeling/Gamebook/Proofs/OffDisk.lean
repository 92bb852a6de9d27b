import Gamebook.Proofs.Rules

/-!
# What is played off the disk

Once a story is opened the disk is out of play. Speeches, fights and menus show lines, ask
questions, draw the foe's move and change the game, and all that they look at is the game and the
answers to come. `OffDisk` says so of a step. A step off the disk does the same on every disk, and
leaves the disk as it is.

## Key results

- `OffDisk.exec_disk`: a step off the disk on another disk
- `OffDisk.fight`: a whole fight
- `OffDisk.rules`: menus, and the commands of a story
- `OffDisk.play`: all the lines of a story
-/

namespace Gamebook.Play

variable {α : Type}

/-- `OffDisk p`: the step `p` is made of the primitive steps of a game but those with files. What is
    done after `get` may depend on the game and on the answers to come. -/
inductive OffDisk : {α : Type} → Play α → Prop where
  | pure {α : Type} (a : α) : OffDisk (Pure.pure a)
  | fail {α : Type} (f : Fault) : OffDisk (Play.fail f : Play α)
  | bind {α β : Type} {p : Play α} {f : α → Play β} (first : OffDisk p)
      (next : ∀ a, OffDisk (f a)) : OffDisk (p >>= f)
  | traced {α : Type} {p : Play α} {steps : Fault → List Step} (inner : OffDisk p) :
      OffDisk (p.traced steps)
  | look {α : Type} {f : World → Play α} (next : ∀ w, OffDisk (f w))
      (same : ∀ w w', w.game = w'.game → w.console.answers = w'.console.answers → f w = f w') :
      OffDisk (get >>= f)
  | print (text : String) : OffDisk (Play.print text)
  | pause (seconds : Binary64) : OffDisk (Play.pause seconds)
  | tell (key : String) (args : List Template.Arg) : OffDisk (Play.tell key args)
  | askPhrase (key : String) (args : List Template.Arg) : OffDisk (Play.askPhrase key args)
  | draw : OffDisk Play.draw
  | modifyGame (f : Game → Game) : OffDisk (Play.modifyGame f)

namespace OffDisk

/-! ## Another disk -/

/-- A step that is `OffDisk` does the same on another disk, and leaves that disk as it is. -/
theorem exec_disk {p : Play α} (h : OffDisk p) (w : World) (d : Disk) :
    p.exec { w with disk := d } = ((p.exec w).1, { (p.exec w).2 with disk := d }) := by
  induction h generalizing w with
  | pure a => rfl
  | fail f => rfl
  | @bind α β p f _ _ ihp ihf =>
    -- both runs of `p` have the same result, so `f` goes on alike
    rw [exec_bind, exec_bind, ihp w]
    rcases p.exec w with ⟨e | a, v⟩
    · rfl
    · exact ihf a v
  | traced _ ih =>
    rw [exec_traced, exec_traced]
    exact ih w
  | @look α f _ same ih =>
    -- what is done next is what is done on the first disk
    have hnext : f { w with disk := d } = f w := same _ w rfl rfl
    simp only [exec_bind, exec_get, hnext]
    exact ih w w
  | print text => rfl
  | pause seconds => rfl
  | tell key args =>
    simp only [exec_tell]
    cases w.phrasebook.phrase key args <;> rfl
  | askPhrase key args =>
    simp only [exec_askPhrase]
    cases w.phrasebook.phrase key args with
    | error f => rfl
    | ok v =>
      simp only [exec_ask]
      split <;> rfl
  | draw => rfl
  | modifyGame f => rfl

/-- A step that is `OffDisk` leaves the disk as it is. -/
theorem disk_eq {p : Play α} (h : OffDisk p) (w : World) : (p.exec w).2.disk = w.disk :=
  congrArg (·.2.disk) (h.exec_disk w w.disk)

/-! ## Fights -/

private theorem talkRules : TalkRules OffDisk where
  pure := .pure
  fail := .fail
  bind := .bind
  traced := .traced
  lookAnswers next same := .look next fun w w' _ hanswers => same w w' hanswers
  print := .print
  pause := .pause
  tell := .tell
  askPhrase := .askPhrase

theorem report (g : Game) (mine theirs : Move) : OffDisk (Battle.report g mine theirs) := by
  cases mine <;> cases theirs
  · exact .bind (.tell _ _) fun _ => .tell _ _
  · exact .bind (.tell _ _) fun _ => .tell _ _
  · exact .bind (.tell _ _) fun _ => .tell _ _
  · exact .tell _ _

theorem finish (won : Bool) : OffDisk (Battle.finish won) :=
  .bind (.modifyGame _) fun _ => .pure _

theorem resolve (mine : Move) : OffDisk (Battle.resolve mine) := by
  refine .bind .draw fun theirs => .bind (.modifyGame _) fun _ => ?_
  refine .look (fun w => ?_) fun w w' hgame _ => by simp only [hgame]
  refine .bind (report _ _ _) fun _ => .bind (.tell _ _) fun _ => .bind (.tell _ _) fun _ => ?_
  -- someone has no points left, or the fight goes on
  split
  · exact .bind (.tell _ _) fun _ => finish _
  · split
    · exact .bind (.tell _ _) fun _ => finish _
    · exact .pure none

theorem round : OffDisk Battle.round := by
  refine .look (fun w => ?_) fun w w' hgame _ => by simp only [hgame]
  dsimp only
  split
  · exact finish _
  · refine .bind (.tell _ _) fun _ => .bind (.tell _ _) fun _ => .bind (.tell _ _) fun _ => ?_
    exact .bind (.askPhrase _ _) fun answer => resolve _

theorem meet (hp damage : Amount) (name : String) : OffDisk (Battle.meet hp damage name) := by
  -- the name is set first, then the points and the damage, as far as they can be read
  refine .bind (.modifyGame _) fun _ => .bind (talkRules.orThrow _).traced fun hp => ?_
  refine .bind (.modifyGame _) fun _ => .bind (talkRules.orThrow _).traced fun damage => ?_
  exact .bind (.modifyGame _) fun _ => .modifyGame _

theorem fight (hp damage : Amount) (name : String) : OffDisk (Battle.fight hp damage name) := by
  refine .bind (meet hp damage name) fun _ => ?_
  refine .look (fun w => ?_) fun w w' hgame _ => by simp only [hgame]
  exact .bind (.tell _ _) fun _ => .bind (.tell _ _) fun _ => .bind (.tell _ _) fun _ =>
    talkRules.repeatTurn round

/-! ## Stories -/

/-- A fight looks at the foe, the other commands of a story at the player alone; all are
    `OffDisk`. -/
theorem rules : LineRules OffDisk where
  toTalkRules := talkRules
  lookPlayer next same := .look next fun w w' hgame _ => same w w' (congrArg Game.player hgame)
  modifyPlayer _ := .modifyGame _
  fight := fight

/-- Once a story is opened, `play` is `OffDisk`. -/
theorem play (notes : Story.Notes) (lines : List Story.Line) : OffDisk (Story.play notes lines) :=
  rules.playFrom rules.command 0 notes lines

end OffDisk

end Gamebook.Play

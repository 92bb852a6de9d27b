import Gamebook.Proofs.OffDisk

/-!
# What a game can do

Speeches, fights, menus and stories are all made of the same few doings: lines are shown, questions
are asked, the foe's move is drawn, the game is changed, and the folder of the stories is made. They
look at the game, at the disk and at the answers to come, and at nothing else. `InGame` says so of a
step. It is shown once of every step of a game, for most of them with `OffDisk`; what holds of all
games is then proved by induction on it, without a look at any fight, menu or story.

## Key results

- `InGame.preserves`: what a game leaves as it is
- `InGame.lineRules`, `InGame.fileRules`: what stories are made of, and their folder
- `InGame.story`: a whole story
-/

namespace Gamebook.Play

variable {α : Type}

/-- Two worlds that look the same in a game: the game, the disk and the answers to come agree. -/
structure SameView (w w' : World) : Prop where
  game : w.game = w'.game
  disk : w.disk = w'.disk
  answers : w.console.answers = w'.console.answers

/-- `InGame p`: the step `p` is made of the primitive steps of a game. What is done after `get` may
    depend on the part of the world that can be seen in a game, and on nothing else. -/
inductive InGame : {α : Type} → Play α → Prop where
  | pure {α : Type} (a : α) : InGame (Pure.pure a)
  | fail {α : Type} (f : Fault) : InGame (Play.fail f : Play α)
  | bind {α β : Type} {p : Play α} {f : α → Play β} (first : InGame p) (next : ∀ a, InGame (f a)) :
      InGame (p >>= f)
  | traced {α : Type} {p : Play α} {steps : Fault → List Step} (inner : InGame p) :
      InGame (p.traced steps)
  | look {α : Type} {f : World → Play α} (next : ∀ w, InGame (f w))
      (same : ∀ w w', SameView w w' → f w = f w') : InGame (get >>= f)
  | print (text : String) : InGame (Play.print text)
  | pause (seconds : Binary64) : InGame (Play.pause seconds)
  | tell (key : String) (args : List Template.Arg) : InGame (Play.tell key args)
  | askPhrase (key : String) (args : List Template.Arg) : InGame (Play.askPhrase key args)
  | draw : InGame Play.draw
  | modifyGame (f : Game → Game) : InGame (Play.modifyGame f)
  | ensureStories : InGame (ensureFolder Story.folder)

/-- Every step that is `OffDisk` is `InGame`. -/
theorem OffDisk.inGame {p : Play α} (h : OffDisk p) : InGame p := by
  induction h with
  | pure a => exact .pure a
  | fail f => exact .fail f
  | bind _ _ ihp ihf => exact .bind ihp ihf
  | traced _ ih => exact .traced ih
  | look _ same ih => exact .look ih fun w w' hview => same w w' hview.game hview.answers
  | print text => exact .print text
  | pause seconds => exact .pause seconds
  | tell key args => exact .tell key args
  | askPhrase key args => exact .askPhrase key args
  | draw => exact .draw
  | modifyGame f => exact .modifyGame f

namespace InGame

/-! ## What a game leaves as it is -/

/-- What a step that is `InGame` does to a world, as a relation `R` between the world before and
    after: if `R` holds of each of the primitive changes, and of changes one after the other, it
    holds of the step. -/
theorem preserves {R : World → World → Prop} (hrefl : ∀ w, R w w)
    (htrans : ∀ {u v w}, R u v → R v w → R u w)
    (hconsole : ∀ w console, R w { w with console }) (hgame : ∀ w game, R w { w with game })
    (hfolder : ∀ w : World, R w { w with disk := w.disk.makeFolder Story.folder })
    {p : Play α} (h : InGame p) (w : World) : R w (p.exec w).2 := by
  induction h generalizing w with
  | pure a => exact hrefl w
  | fail f => exact hrefl w
  | @bind α β p f _ _ ihp ihf =>
    -- the world after `p` is the one before `f`
    have hp := ihp w
    rw [exec_bind]
    rcases hrun : p.exec w with ⟨e | a, v⟩ <;> rw [hrun] at hp
    · exact hp
    · exact htrans hp (ihf a v)
  | traced _ ih =>
    rw [exec_traced]
    exact ih w
  | look _ _ ih =>
    rw [exec_bind, exec_get]
    -- a look at the world changes nothing
    exact ih w w
  | print text => exact hconsole w _
  | pause seconds => exact hconsole w _
  | tell key args =>
    -- without a phrase nothing is shown
    rw [exec_tell]
    split
    · exact hconsole w _
    · exact hrefl w
  | askPhrase key args =>
    rw [exec_askPhrase]
    split
    · -- an answer is taken, or there was none; only the console is changed
      rw [exec_ask]
      split <;> exact hconsole w _
    · exact hrefl w
  | draw => exact hconsole w _
  | modifyGame f => exact hgame w _
  | ensureStories =>
    rw [exec_ensureFolder]
    dsimp only
    split
    · exact hrefl w
    · -- the folder is made only if it is not there
      exact hfolder w

/-- A step that is `InGame` never changes the phrasebook. -/
theorem phrasebook_eq {p : Play α} (h : InGame p) (w : World) :
    (p.exec w).2.phrasebook = w.phrasebook :=
  h.preserves (R := fun w v => v.phrasebook = w.phrasebook) (fun _ => rfl)
    (fun huv hvw => hvw.trans huv) (fun _ _ => rfl) (fun _ _ => rfl) (fun _ => rfl) w

/-! ## Fights and stories -/

theorem fight (hp damage : Amount) (name : String) : InGame (Battle.fight hp damage name) :=
  (OffDisk.fight hp damage name).inGame

theorem lineRules : LineRules InGame where
  pure := .pure
  fail := .fail
  bind := .bind
  traced := .traced
  lookAnswers next same := .look next fun w w' hview => same w w' hview.answers
  print := .print
  pause := .pause
  tell := .tell
  askPhrase := .askPhrase
  lookPlayer next same := .look next fun w w' hview => same w w' (congrArg Game.player hview.game)
  modifyPlayer _ := .modifyGame _
  fight := fight

theorem fileRules : FileRules InGame where
  toTalkRules := lineRules.toTalkRules
  lookDisk next same := .look next fun w w' hview => same w w' hview.disk
  ensureStories := .ensureStories

/-- `Story.run` is `InGame`, whatever is in the file. -/
theorem story (name : String) : InGame (Story.run name) := fileRules.story lineRules.command name

end InGame

end Gamebook.Play

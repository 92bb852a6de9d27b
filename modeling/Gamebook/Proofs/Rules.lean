import Gamebook.Proofs.Exec
import Gamebook.Story

/-!
# Walks through menus and stories

Many properties `K` of steps are shown in the same way. `K` holds of a few primitive steps, such as
`print` and `askPhrase`; it goes over from `p` and `f` to `p >>= f`; and so it holds of
`Menu.choose` and `Story.run`, which are made of these. The walk through a menu or a story is the
same whatever `K` is, so it is done here once.

`TalkRules K` lists what is needed for menus, `LineRules K` what is needed for the commands of a
story, and `FileRules K` what is needed to find and open one. To show `K` of all of them is to show
the rules.

## Key results

- `TalkRules.say`, `TalkRules.choose`: speeches and menus
- `TalkRules.playFrom`: the lines of a story, if `K` holds of carrying out a line
- `LineRules.command`: carrying out a line
- `FileRules.openStory`, `FileRules.list`: stories in their folder
-/

namespace Gamebook.Play

open Story

/-! ## What is said, shown and asked -/

/-- Rules for a property `K` of steps: it holds of the steps that show, ask and wait, and goes over
    from the parts of a step to the whole. What is done after `get` may depend on the answers to
    come alone. -/
structure TalkRules (K : {α : Type} → Play α → Prop) : Prop where
  pure : ∀ {α : Type} (a : α), K (Pure.pure a)
  fail : ∀ {α : Type} (f : Fault), K (Play.fail f : Play α)
  bind : ∀ {α β : Type} {p : Play α} {f : α → Play β}, K p → (∀ a, K (f a)) → K (p >>= f)
  traced : ∀ {α : Type} {p : Play α} {steps : Fault → List Step}, K p → K (p.traced steps)
  lookAnswers : ∀ {α : Type} {f : World → Play α}, (∀ w, K (f w)) →
    (∀ w w', w.console.answers = w'.console.answers → f w = f w') → K (get >>= f)
  print : ∀ text, K (Play.print text)
  pause : ∀ seconds, K (Play.pause seconds)
  tell : ∀ key args, K (Play.tell key args)
  askPhrase : ∀ key args, K (Play.askPhrase key args)

namespace TalkRules

variable {K : {α : Type} → Play α → Prop} {α β : Type}

theorem map (hK : TalkRules K) {p : Play α} (f : α → β) (hp : K p) : K (f <$> p) := by
  rw [map_eq_pure_bind]
  exact hK.bind hp fun a => hK.pure (f a)

theorem orThrow (hK : TalkRules K) (r : Except Fault α) : K (Play.orThrow r) := by
  cases r with
  | ok a => exact hK.pure a
  | error f => exact hK.fail f

theorem forM (hK : TalkRules K) {f : α → Play Unit} (h : ∀ a, K (f a)) (as : List α) :
    K (as.forM f) := by
  induction as with
  | nil => exact hK.pure ()
  | cons a as ih => exact hK.bind (h a) fun _ => ih

theorem untilResult (hK : TalkRules K) {turn : Play (Option α)} (h : K turn) (turns : Nat) :
    K (Play.untilResult turn turns) := by
  induction turns with
  | zero => exact hK.fail _
  | succ turns ih =>
    refine hK.bind h fun result => ?_
    cases result with
    | none => exact ih
    | some a => exact hK.pure a

/-- The bound on the turns of `repeatTurn` is read off the answers to come. -/
theorem repeatTurn (hK : TalkRules K) {turn : Play (Option α)} (h : K turn) :
    K (Play.repeatTurn turn) :=
  hK.lookAnswers (fun _ => hK.untilResult h _) fun _ _ hanswers => by rw [hanswers]

theorem say (hK : TalkRules K) (text name : String) (seconds : Binary64) :
    K (Gamebook.say text name seconds) := by
  refine hK.bind (hK.tell _ _) fun _ => ?_
  split
  · exact hK.pause seconds
  · exact hK.pure ()

/-! ## Menus -/

theorem showFrom (hK : TalkRules K) (number : Nat) (options : List String) :
    K (Menu.showFrom number options) := by
  induction options generalizing number with
  | nil => exact hK.pure ()
  | cons option options ih => exact hK.bind (hK.print _) fun _ => ih (number + 1)

theorem respond (hK : TalkRules K) (options : List String) (reply : Menu.Reply) :
    K (Menu.respond options reply) := by
  cases reply with
  | chosen number option => exact hK.bind (hK.tell _ _) fun _ => hK.pure _
  | outside => exact hK.bind (hK.tell _ _) fun _ => hK.pure _
  | noNumber => exact hK.bind (hK.tell _ _) fun _ => hK.pure _

/-- A menu, with as many turns as it takes. -/
theorem choose (hK : TalkRules K) (options : List String) : K (Menu.choose options) := by
  have hturn : K (Menu.turn options) :=
    hK.bind (hK.askPhrase _ _) fun _ => hK.respond options _
  unfold Menu.choose
  split
  · exact hK.bind (hK.tell _ _) fun _ => hK.pure _
  · refine hK.bind (hK.tell _ _) fun _ => hK.bind (hK.showFrom 1 options) fun _ => ?_
    exact hK.map some (hK.repeatTurn hturn)

/-! ## The lines of a story -/

section

variable {carry : Line → Play (Option Bool)}

private theorem longer (hK : TalkRules K) {p : Play Stretch} (h : K p) :
    K (do return (← p).longer : Play Stretch) :=
  hK.bind h fun _ => hK.pure _

theorem playBlock (hK : TalkRules K) (hcarry : ∀ line, K (carry line)) (notes : Notes)
    (lines : List Line) : K (Story.playBlock carry notes lines) := by
  induction lines generalizing notes with
  | nil => exact hK.pure _
  | cons line rest ih =>
    unfold Story.playBlock
    split
    · -- the next header ends the block
      exact hK.pure _
    · refine hK.bind (hK.traced (hcarry line)) fun won => ?_
      split
      · exact hK.pure _
      · exact hK.longer (ih _)

theorem seekBlock (hK : TalkRules K) (hcarry : ∀ line, K (carry line)) (number skip : Nat)
    (notes : Notes) (lines : List Line) : K (Story.seekBlock carry number skip notes lines) := by
  induction lines generalizing skip notes with
  | nil =>
    unfold Story.seekBlock
    exact hK.pure _
  | cons line rest ih =>
    cases skip with
    | succ skip =>
      unfold Story.seekBlock
      exact hK.longer (ih _ _)
    | zero =>
      unfold Story.seekBlock
      -- a header is read as a number, which may fail; any other line is passed by
      split
      · exact hK.longer (ih _ _)
      · refine hK.bind (hK.traced (hK.orThrow _)) fun n => ?_
        split
        · exact hK.longer (hK.playBlock hcarry _ _)
        · exact hK.longer (ih _ _)

/-- The lines of a story. `playFrom` recurses on the lines, with any number of them to skip and any
    notes so far, and so does the proof. -/
theorem playFrom (hK : TalkRules K) (hcarry : ∀ line, K (carry line)) (skip : Nat) (notes : Notes)
    (lines : List Line) : K (Story.playFrom carry skip notes lines) := by
  induction lines generalizing skip notes with
  | nil =>
    unfold Story.playFrom
    exact hK.pure _
  | cons line rest ih =>
    cases skip with
    | succ skip =>
      unfold Story.playFrom
      exact ih _ _
    | zero =>
      unfold Story.playFrom
      dsimp only
      split
      · -- a line that opens like a menu
        split
        · exact ih _ _
        · refine hK.bind (hK.choose _) fun number => ?_
          cases number with
          | none => exact ih _ _
          | some number =>
            refine hK.bind (hK.seekBlock hcarry _ _ _ _) fun stretch => ?_
            cases stretch with
            | lost => exact hK.pure _
            | used count notes => exact ih _ _
      · refine hK.bind (hK.traced (hcarry line)) fun won => ?_
        split
        · exact hK.pure _
        · exact ih _ _

end

end TalkRules

/-! ## Lines that are carried out -/

/-- Rules for a property `K` of steps that holds of the commands of a story as well: of a whole
    fight, and of changes to the player. What is done after `get` may depend on the player. -/
structure LineRules (K : {α : Type} → Play α → Prop) : Prop extends TalkRules K where
  lookPlayer : ∀ {α : Type} {f : World → Play α}, (∀ w, K (f w)) →
    (∀ w w', w.game.player = w'.game.player → f w = f w') → K (get >>= f)
  modifyPlayer : ∀ f : Player → Player, K (modifyGame fun g => { g with player := f g.player })
  fight : ∀ hp damage name, K (Battle.fight hp damage name)

namespace LineRules

variable {K : {α : Type} → Play α → Prop}

theorem setPlayer (hK : LineRules K) (hp damage : Amount) : K (Gamebook.setPlayer hp damage) := by
  refine hK.lookPlayer (fun _ => ?_) fun w w' hplayer => by rw [hplayer]
  refine hK.bind (hK.traced (hK.orThrow _)) fun points => ?_
  refine hK.bind (hK.modifyPlayer fun p => { p with hp := points }) fun _ => ?_
  refine hK.lookPlayer (fun _ => ?_) fun w w' hplayer => by rw [hplayer]
  refine hK.bind (hK.traced (hK.orThrow _)) fun strength => ?_
  exact hK.modifyPlayer fun p => { p with damage := strength }

theorem perform (hK : LineRules K) (command : Command) : K command.perform := by
  cases command with
  | say text name seconds => exact hK.bind (hK.say text name seconds) fun _ => hK.pure _
  | fight hp damage name => exact hK.map some (hK.fight _ _ name)
  | player hp damage => exact hK.bind (hK.setPlayer _ _) fun _ => hK.pure _

theorem command (hK : LineRules K) (line : Line) : K (Command.run line) := by
  unfold Command.run
  split
  · exact hK.traced (hK.perform _)
  · exact hK.pure _

end LineRules

/-! ## Stories in their folder -/

/-- Rules for a property `K` of steps that holds of finding and opening a story as well: what is
    done after `get` may depend on the disk, and the folder of the stories may be made. -/
structure FileRules (K : {α : Type} → Play α → Prop) : Prop extends TalkRules K where
  lookDisk : ∀ {α : Type} {f : World → Play α}, (∀ w, K (f w)) →
    (∀ w w', w.disk = w'.disk → f w = f w') → K (get >>= f)
  ensureStories : K (ensureFolder Story.folder)

namespace FileRules

variable {K : {α : Type} → Play α → Prop}

theorem readRaw (hK : FileRules K) (path : String) : K (Play.readRaw path) := by
  refine hK.lookDisk (fun w => ?_) fun w w' hdisk => by rw [hdisk]
  split
  · exact hK.fail _
  · split
    · exact hK.fail _
    · exact hK.pure _

theorem listFolder (hK : FileRules K) (path : String) : K (Play.listFolder path) := by
  refine hK.lookDisk (fun w => ?_) fun w w' hdisk => by rw [hdisk]
  split
  · exact hK.fail _
  · exact hK.pure _

theorem refuse (hK : FileRules K) (name : String) : K (Story.refuse name) :=
  hK.bind (hK.tell _ _) fun _ => hK.tell _ _

theorem withoutMark (hK : FileRules K) (name : String) : K (Story.withoutMark name) := by
  unfold Story.withoutMark
  split
  · exact hK.bind (hK.tell _ _) fun _ => hK.pure _
  · exact hK.pure _

theorem openStory (hK : FileRules K) (name : String) : K (Story.openStory name) := by
  unfold Story.openStory
  split
  · exact hK.bind (hK.refuse name) fun _ => hK.pure _
  · refine hK.bind (hK.withoutMark name) fun name => hK.bind hK.ensureStories fun _ => ?_
    refine hK.lookDisk (fun w => ?_) fun w w' hdisk => by simp only [hdisk]
    split
    · -- there is nothing at the path
      exact hK.bind (hK.tell _ _) fun _ => hK.bind (hK.tell _ _) fun _ => hK.pure _
    · exact hK.bind (hK.traced (hK.readRaw _)) fun raw => hK.pure _

/-- A whole story, if `K` holds of carrying out a line. -/
theorem story (hK : FileRules K) (hcommand : ∀ line, K (Command.run line)) (name : String) :
    K (Story.run name) := by
  refine hK.bind (hK.openStory name) fun opened => ?_
  cases opened with
  | none => exact hK.pure _
  | some opened => exact hK.map some (hK.playFrom hcommand 0 _ _)

theorem list (hK : FileRules K) : K Story.list := by
  refine hK.bind hK.ensureStories fun _ => hK.bind (hK.tell _ _) fun _ => ?_
  refine hK.bind (hK.traced (hK.listFolder _)) fun names => ?_
  refine hK.bind (hK.forM (fun _ => hK.print _) _) fun _ => ?_
  split
  · exact hK.bind (hK.tell _ _) fun _ => hK.tell _ _
  · exact hK.pure _

end FileRules

end Gamebook.Play

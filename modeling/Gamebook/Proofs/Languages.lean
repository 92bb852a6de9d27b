import Gamebook.Proofs.InGame
import Mathlib.Data.List.Forall2

/-!
# Games in different languages

A phrasebook gives the texts that are shown in a game, and nothing else. Two worlds that differ only
in their phrasebooks play the same game: whatever the packs hold, the results, the faults, the moves
drawn and the pauses are the same, and so is the number of lines shown and questions asked.

The one thing that a phrasebook can do to a game is to have a language that is no code: then no
phrase is found at all, and the first one that is wanted fails.

## Key results

- `InGame.alike`: two alike worlds stay alike, for every step of a game
- `same_game_in_every_language`: the same for fights, menus, speeches, lines and stories
-/

namespace Gamebook

/-! ## Worlds that differ in texts -/

/-- Two events that are the same but for the text of a line or a question. -/
inductive Event.Alike : Event → Event → Prop where
  | print (text text' : String) : Alike (.print text) (.print text')
  | ask (prompt prompt' : String) : Alike (.ask prompt) (.ask prompt')
  | draw (move : Move) : Alike (.draw move) (.draw move)
  | pause (seconds : Binary64) : Alike (.pause seconds) (.pause seconds)

theorem Event.Alike.refl (e : Event) : e.Alike e := by
  cases e with
  | print text => exact .print text text
  | ask prompt => exact .ask prompt prompt
  | draw move => exact .draw move
  | pause seconds => exact .pause seconds

namespace World

/-- Two worlds that are the same but for their phrasebooks and the texts that were shown. -/
structure Alike (w w' : World) : Prop where
  game : w.game = w'.game
  disk : w.disk = w'.disk
  clock : w.clock = w'.clock
  nesting : w.nesting = w'.nesting
  desk : w.desk = w'.desk
  alone : w.alone = w'.alone
  answers : w.console.answers = w'.console.answers
  picks : w.console.picks = w'.console.picks
  events : List.Forall₂ Event.Alike w.console.events.toList w'.console.events.toList

/-- A world with another phrasebook. -/
def speaking (w : World) (b : Phrasebook) : World := { w with phrasebook := b }

variable {w w' : World}

/-- A world is `Alike` in every language. -/
private theorem alike_speaking (w : World) (b b' : Phrasebook) :
    (w.speaking b).Alike (w.speaking b') where
  game := rfl
  disk := rfl
  clock := rfl
  nesting := rfl
  desk := rfl
  alone := rfl
  answers := rfl
  picks := rfl
  events := List.forall₂_same.2 fun e _ => Event.Alike.refl e

theorem Alike.view (h : w.Alike w') : Play.SameView w w' := ⟨h.game, h.disk, h.answers⟩

/-- `Alike` worlds stay so when alike events are added. -/
theorem Alike.log (h : w.Alike w') {e e' : Event} (he : e.Alike e') :
    Alike { w with console := w.console.log e } { w' with console := w'.console.log e' } where
  game := h.game
  disk := h.disk
  clock := h.clock
  nesting := h.nesting
  desk := h.desk
  alone := h.alone
  answers := h.answers
  picks := h.picks
  events := by
    rw [Console.events_log, Console.events_log]
    exact List.rel_append h.events (.cons he .nil)

/-- `Alike` worlds stay so when an answer is used up. -/
private theorem Alike.answered (h : w.Alike w') (answers : List Answer) :
    Alike { w with console := { w.console with answers } }
      { w' with console := { w'.console with answers } } :=
  { h with answers := rfl }

theorem Alike.nextMove (h : w.Alike w') : w.console.nextMove = w'.console.nextMove := by
  simp only [Console.nextMove, h.picks]

/-- `Alike` worlds stay so when the foe's move is drawn. -/
theorem Alike.drawn (h : w.Alike w') :
    Alike { w with console := w.console.drawn } { w' with console := w'.console.drawn } := by
  have hevents := (h.log (.draw w.console.nextMove)).events
  refine { h with picks := congrArg List.tail h.picks, events := ?_ }
  simp only [Console.drawn, Console.events_log] at hevents ⊢
  rw [← h.nextMove]
  exact hevents

end World

/-! ## Games in alike worlds -/

namespace Play

variable {α : Type} {p : Play α}

/-- Two outcomes that differ in texts only: the result or the fault is the same, and the worlds are
    `Alike`. -/
def SameOutcome (out out' : Except Fault α × World) : Prop :=
  out.1 = out'.1 ∧ out.2.Alike out'.2

/-- `ask` gets the same answer in worlds that are `Alike`, whatever the words of the question. -/
private theorem sameOutcome_ask {w w' : World} (h : w.Alike w') (prompt prompt' : String) :
    SameOutcome ((ask prompt).exec w) ((ask prompt').exec w') := by
  have hlog := h.log (.ask prompt prompt')
  rw [exec_ask, exec_ask, ← h.answers]
  split
  · exact ⟨rfl, hlog⟩
  · exact ⟨rfl, hlog.answered _⟩

/-- A step that is `InGame` has the `SameOutcome` in worlds that are `Alike`, if there are phrases
    in both. -/
theorem InGame.alike (h : InGame p) {w w' : World} (hw : w.Alike w')
    (hcode : Phrasebook.isCode w.phrasebook.language = true)
    (hcode' : Phrasebook.isCode w'.phrasebook.language = true) :
    SameOutcome (p.exec w) (p.exec w') := by
  induction h generalizing w w' with
  | pure a => exact ⟨rfl, hw⟩
  | fail f => exact ⟨rfl, hw⟩
  | @bind α β p f hp _ ihp ihf =>
    -- the second step starts in the phrasebooks of the first one
    have hbook := hp.phrasebook_eq w
    have hbook' := hp.phrasebook_eq w'
    obtain ⟨hresult, hworld⟩ := ihp hw hcode hcode'
    rw [exec_bind, exec_bind]
    rcases hrun : p.exec w with ⟨r, v⟩
    rcases hrun' : p.exec w' with ⟨r', v'⟩
    rw [hrun] at hbook hresult hworld
    rw [hrun'] at hbook' hresult hworld
    cases hresult
    cases r with
    | error f => exact ⟨rfl, hworld⟩
    | ok a => exact ihf a hworld (hbook ▸ hcode) (hbook' ▸ hcode')
  | traced _ ih =>
    rw [exec_traced, exec_traced]
    exact ih hw hcode hcode'
  | look _ hsame ih =>
    rw [exec_bind, exec_bind, exec_get, exec_get]
    simp only
    rw [← hsame w w' hw.view]
    exact ih w hw hcode hcode'
  | print text => exact ⟨rfl, hw.log (.print text text)⟩
  | pause seconds => exact ⟨rfl, hw.log (.pause seconds)⟩
  | tell key args =>
    -- each language has a phrase of its own, and both show a line
    obtain ⟨v, hv⟩ := w.phrasebook.phrase_of_isCode key args hcode
    obtain ⟨v', hv'⟩ := w'.phrasebook.phrase_of_isCode key args hcode'
    rw [exec_tell, exec_tell, hv, hv']
    exact ⟨rfl, hw.log (.print _ _)⟩
  | askPhrase key args =>
    obtain ⟨v, hv⟩ := w.phrasebook.phrase_of_isCode key args hcode
    obtain ⟨v', hv'⟩ := w'.phrasebook.phrase_of_isCode key args hcode'
    rw [exec_askPhrase, exec_askPhrase, hv, hv']
    exact sameOutcome_ask hw _ _
  | draw =>
    rw [exec_draw, exec_draw, ← hw.nextMove]
    exact ⟨rfl, hw.drawn⟩
  | modifyGame f =>
    rw [exec_modifyGame, exec_modifyGame, ← hw.game]
    exact ⟨rfl, { hw with game := rfl }⟩
  | ensureStories =>
    simp only [ensureFolder, exec_modify, ← hw.disk]
    split
    · exact ⟨rfl, hw⟩
    · exact ⟨rfl, { hw with disk := rfl }⟩

/-! ## Every game in every language -/

/-- A step gives the same in a world with either of two phrasebooks, but for the texts. -/
def SameIn (w : World) (b b' : Phrasebook) (p : Play α) : Prop :=
  SameOutcome (p.exec (w.speaking b)) (p.exec (w.speaking b'))

/-- Fights, menus, changes to the player, speeches, lines of stories and whole stories are the same
    in every language, whatever the packs hold: the result or the fault, the game, the disk, what is
    left of the answers and the picks, and the events but for their texts. -/
theorem same_game_in_every_language (w : World) (b b' : Phrasebook)
    (hcode : Phrasebook.isCode b.language = true) (hcode' : Phrasebook.isCode b'.language = true) :
    (∀ hp damage name, SameIn w b b' (Battle.fight hp damage name)) ∧
    (∀ options, SameIn w b b' (Menu.choose options)) ∧
    (∀ hp damage, SameIn w b b' (setPlayer hp damage)) ∧
    (∀ text name seconds, SameIn w b b' (say text name seconds)) ∧
    (∀ line, SameIn w b b' (Command.run line)) ∧
    (∀ name, SameIn w b b' (Story.run name)) := by
  -- what is done in a game is the same in any two languages that are codes
  have hsame {α : Type} {p : Play α} (h : InGame p) : SameIn w b b' p :=
    h.alike (w.alike_speaking b b') hcode hcode'
  exact ⟨fun hp damage name => hsame (.fight hp damage name),
    fun options => hsame (InGame.lineRules.choose options),
    fun hp damage => hsame (InGame.lineRules.setPlayer hp damage),
    fun text name seconds => hsame (InGame.lineRules.say text name seconds),
    fun line => hsame (InGame.lineRules.command line), fun name => hsame (.story name)⟩

/-- A world before a fight, with a player who attacks once and a foe who blocks. -/
def beforeFight : World where
  game := { player := { hp := 5, damage := 8 } }
  console := { answers := [.line "1"], picks := [1] }

/-- A phrasebook with phrases that are no texts, or cannot be filled in. -/
def oddPhrases : Phrasebook where
  language := .str "xx"
  packs := [("xx",
    [("player_turn", .int 7), ("victory", .str "\x7b0.none\x7d"), ("fight_title", .arr [])])]

/-- A line with a fight against a rat. -/
def ratFight : List Char := "fight(4, 1, Rat)".toList

/-- The fight is won in both languages, though they have different words for it. -/
theorem same_fight_in_odd_phrases :
    Phrasebook.isCode ({} : Phrasebook).language = true ∧
    Phrasebook.isCode oddPhrases.language = true ∧
    SameIn beforeFight {} oddPhrases (Command.run ratFight) ∧
    ((Command.run ratFight).exec (beforeFight.speaking {})).1.toOption = some (some true) ∧
    ((Command.run ratFight).exec (beforeFight.speaking {})).2.console.events ≠
      ((Command.run ratFight).exec (beforeFight.speaking oddPhrases)).2.console.events :=
  ⟨rfl, rfl, (same_game_in_every_language beforeFight {} oddPhrases rfl rfl).2.2.2.2.1 _,
    by decide +kernel, by decide +kernel⟩

end Play

end Gamebook

import Gamebook.Proofs.PromptRules

/-!
# Two runs of a step

A step can be run in two worlds that differ. `Respects R` says that it cannot tell them apart as
long as they are related by `R`: it comes to the same result or to the same mishap, with the same
trail, and the worlds are still related.

The relations here are likenesses: alike worlds have the same player, phrasebook and disk, and the
same answers and picks to come, but may differ in the foe. What is done to both worlds alike keeps
them alike. No step of the program can tell alike worlds apart. The one that seems to is a fight,
which looks at its foe in every round; but it brings the foe in first.

## Key results

- `InGame.respects`: what is done in a game when the foe is the same
- `OverlooksFoe.fight`: a fight, which brings in a foe of its own
- `OverlooksFoe.rules`, `OverlooksFoe.command`: stories, and lines typed at the prompt
- `OverlooksFoe.greet`: what comes before the first line at the prompt
-/

namespace Gamebook.Play

variable {α β : Type}

/-! ## Steps with their trails -/

/-- What a step does after another one, with the trail of a mishap. -/
theorem run_bind (p : Play α) (f : α → Play β) (w : World) :
    (p >>= f) w =
      match p w with
      | (.ok a, v) => f a v
      | (.error m, v) => (.error m, v) := by
  simp only [bind, ExceptT.bind, ExceptT.mk, StateT.bind]
  rcases p w with ⟨m | a, v⟩ <;> rfl

/-- What is done about a mishap, with its trail. -/
theorem run_tryCatch (p : Play α) (h : Mishap → Play α) (w : World) :
    (tryCatch p h) w =
      match p w with
      | (.ok a, v) => (.ok a, v)
      | (.error m, v) => h m v := by
  simp only [tryCatch, tryCatchThe, MonadExceptOf.tryCatch, ExceptT.tryCatch, ExceptT.mk, bind,
    StateT.bind]
  rcases p w with ⟨m | a, v⟩ <;> rfl

/-- Two outcomes with the same result are faults alike, or have both come to the same value. -/
theorem cases_of_fst_eq {ε : Type} {out out' : Except ε α × World} (h : out.1 = out'.1) :
    (∃ e v v', out = (.error e, v) ∧ out' = (.error e, v')) ∨
      ∃ a v v', out = (.ok a, v) ∧ out' = (.ok a, v') := by
  obtain ⟨r, v⟩ := out
  obtain ⟨r', v'⟩ := out'
  cases h
  cases r with
  | error e => exact .inl ⟨e, v, v', rfl, rfl⟩
  | ok a => exact .inr ⟨a, v, v', rfl, rfl⟩

/-! ## Steps in two worlds -/

/-- `Respects R p`: the step `p` comes to the same result or the same mishap in two worlds that `R`
    relates, and leaves them related. -/
def Respects (R : World → World → Prop) (p : Play α) : Prop :=
  ∀ w w', R w w' → (p w).1 = (p w').1 ∧ R (p w).2 (p w').2

namespace Respects

variable {R : World → World → Prop}

theorem pure (a : α) : Respects R (Pure.pure a) := fun _ _ h => ⟨rfl, h⟩

theorem fail (f : Fault) : Respects R (Play.fail f : Play α) := fun _ _ h => ⟨rfl, h⟩

theorem bind {p : Play α} {f : α → Play β} (hp : Respects R p) (hf : ∀ a, Respects R (f a)) :
    Respects R (p >>= f) := by
  intro w w' h
  obtain ⟨hresult, hworld⟩ := hp w w' h
  rw [run_bind, run_bind]
  -- both go on with the same value, or neither goes on
  obtain ⟨m, v, v', hv, hv'⟩ | ⟨a, v, v', hv, hv'⟩ := cases_of_fst_eq hresult <;>
    rw [hv, hv'] at hworld ⊢
  · exact ⟨rfl, hworld⟩
  · exact hf a v v' hworld

/-- Mishaps are the same in both worlds, and so is what is done about them. -/
theorem tryCatch {p : Play α} {f : Mishap → Play α} (hp : Respects R p)
    (hf : ∀ m, Respects R (f m)) : Respects R (MonadExcept.tryCatch p f) := by
  intro w w' h
  obtain ⟨hresult, hworld⟩ := hp w w' h
  rw [run_tryCatch, run_tryCatch]
  -- the same is done about the same mishap
  obtain ⟨m, v, v', hv, hv'⟩ | ⟨a, v, v', hv, hv'⟩ := cases_of_fst_eq hresult <;>
    rw [hv, hv'] at hworld ⊢
  · exact hf m v v' hworld
  · exact ⟨rfl, hworld⟩

theorem traced {p : Play α} {steps : Fault → List Step} (hp : Respects R p) :
    Respects R (p.traced steps) :=
  hp.tryCatch fun _ _ _ h => ⟨rfl, h⟩

theorem orThrow (r : Except Fault α) : Respects R (Play.orThrow r) := by
  cases r with
  | ok a => exact .pure a
  | error f => exact .fail f

/-- What is done after `get`, if it is the same in related worlds. -/
theorem look {f : World → Play α} (next : ∀ w, Respects R (f w))
    (same : ∀ w w', R w w' → f w = f w') : Respects R (get >>= f) := by
  intro w w' h
  have hget (v : World) : (get >>= f : Play α) v = f v v := rfl
  rw [hget, hget, ← same w w' h]
  exact next w w w' h

theorem modify {f : World → World} (h : ∀ w w', R w w' → R (f w) (f w')) :
    Respects R (MonadStateOf.modifyGet fun w => ((), f w) : Play Unit) :=
  fun w w' hw => ⟨rfl, h w w' hw⟩

/-- The outcomes in related worlds, as `exec` gives them. -/
theorem exec {p : Play α} (h : Respects R p) {w w' : World} (hw : R w w') :
    (p.exec w).1 = (p.exec w').1 ∧ R (p.exec w).2 (p.exec w').2 := by
  obtain ⟨hresult, hworld⟩ := h w w' hw
  refine ⟨?_, hworld⟩
  show (p w).1.mapError _ = (p w').1.mapError _
  rw [hresult]

end Respects

/-! ## Likenesses -/

/-- A likeness of worlds. Alike worlds have the same phrasebook and disk, and the same answers and
    picks to come, and what is done to both of them alike keeps them alike. -/
structure Likeness (R : World → World → Prop) : Prop where
  phrasebook : ∀ {w w'}, R w w' → w.phrasebook = w'.phrasebook
  disk : ∀ {w w'}, R w w' → w.disk = w'.disk
  answers : ∀ {w w'}, R w w' → w.console.answers = w'.console.answers
  picks : ∀ {w w'}, R w w' → w.console.picks = w'.console.picks
  setLanguage : ∀ {w w'}, R w w' → ∀ language,
    R { w with phrasebook := { w.phrasebook with language } }
      { w' with phrasebook := { w'.phrasebook with language } }
  setDisk : ∀ {w w'}, R w w' → ∀ disk, R { w with disk } { w' with disk }
  setDesk : ∀ {w w'}, R w w' → ∀ f : Table String Json → Table String Json,
    R { w with desk := f w.desk } { w' with desk := f w'.desk }
  log : ∀ {w w'}, R w w' → ∀ e,
    R { w with console := w.console.log e } { w' with console := w'.console.log e }
  setAnswers : ∀ {w w'}, R w w' → ∀ answers,
    R { w with console := { w.console with answers } }
      { w' with console := { w'.console with answers } }
  setPicks : ∀ {w w'}, R w w' → ∀ picks,
    R { w with console := { w.console with picks } }
      { w' with console := { w'.console with picks } }

namespace Likeness

variable {R : World → World → Prop}

theorem print (hR : Likeness R) (text : String) : Respects R (Play.print text) :=
  .modify fun _ _ h => hR.log h (.print text)

theorem pause (hR : Likeness R) (seconds : Binary64) : Respects R (Play.pause seconds) :=
  .modify fun _ _ h => hR.log h (.pause seconds)

theorem draw (hR : Likeness R) : Respects R Play.draw := by
  intro w w' h
  -- the picks are the same, so the same move is drawn
  have hmove : w.console.nextMove = w'.console.nextMove := by
    simp only [Console.nextMove, hR.picks h]
  have hdrawn := hR.log (hR.setPicks h w.console.picks.tail) (.draw w.console.nextMove)
  refine ⟨congrArg Except.ok hmove, ?_⟩
  show R { w with console := w.console.drawn } { w' with console := w'.console.drawn }
  simp only [Console.drawn, ← hmove, ← hR.picks h]
  exact hdrawn

theorem phrase (hR : Likeness R) (key : String) (args : List Template.Arg) :
    Respects R (Play.phrase key args) :=
  .look (fun _ => .orThrow _) fun _ _ h => by rw [hR.phrasebook h]

theorem tell (hR : Likeness R) (key : String) (args : List Template.Arg) :
    Respects R (Play.tell key args) :=
  .bind (hR.phrase key args) fun _ => hR.print _

theorem ask (hR : Likeness R) (prompt : String) : Respects R (Play.ask prompt) := by
  refine .bind (.modify fun _ _ h => hR.log h (.ask prompt)) fun _ => ?_
  refine .look (fun w => ?_) fun _ _ h => by rw [hR.answers h]
  split
  · exact .fail _
  · refine .bind (.modify fun _ _ h => hR.setAnswers h _) fun _ => ?_
    split
    · exact .pure _
    · exact .fail _
    · exact .fail _

theorem askPhrase (hR : Likeness R) (key : String) (args : List Template.Arg) :
    Respects R (Play.askPhrase key args) :=
  .bind (hR.phrase key args) fun _ => hR.ask _

theorem ensureFolder (hR : Likeness R) (name : String) : Respects R (Play.ensureFolder name) := by
  refine .modify fun w w' h => ?_
  -- the folder is there in both worlds, or in neither
  rw [hR.disk h]
  split
  · exact h
  · exact hR.setDisk h _

theorem writeText (hR : Likeness R) (path : String) (text : List Char) :
    Respects R (Play.writeText path text) := by
  refine .look (fun w => ?_) fun _ _ h => by rw [hR.disk h]
  split
  · exact .fail _
  · exact .modify fun _ _ h => hR.setDisk h _

end Likeness

/-- A step that is `InGame` cannot tell alike worlds apart if the game is the same in both. -/
theorem InGame.respects {R : World → World → Prop} (hR : Likeness R)
    (hgame : ∀ {w w'}, R w w' → w.game = w'.game)
    (hset : ∀ {w w'}, R w w' → ∀ game, R { w with game } { w' with game }) {p : Play α}
    (h : InGame p) : Respects R p := by
  induction h with
  | pure a => exact .pure a
  | fail f => exact .fail f
  | bind _ _ ihp ihf => exact .bind ihp ihf
  | traced _ ih => exact ih.traced
  | look _ hsame ih =>
    exact .look ih fun w w' h => hsame w w' ⟨hgame h, hR.disk h, hR.answers h⟩
  | print text => exact hR.print text
  | pause seconds => exact hR.pause seconds
  | tell key args => exact hR.tell key args
  | askPhrase key args => exact hR.askPhrase key args
  | draw => exact hR.draw
  | modifyGame f => exact .modify fun w w' h => hgame h ▸ hset h (f w.game)
  | ensureStories => exact hR.ensureFolder _

/-! ## Games with a foe that is left from before -/

/-- A `Likeness` that overlooks the foe: alike worlds have the same player, and nothing else of the
    game counts. -/
structure OverlooksFoe (R : World → World → Prop) : Prop extends Likeness R where
  player : ∀ {w w'}, R w w' → w.game.player = w'.game.player
  setGame : ∀ {w w'}, R w w' → ∀ {g g' : Game}, g.player = g'.player →
    R { w with game := g } { w' with game := g' }

namespace OverlooksFoe

variable {R : World → World → Prop}

/-- A change to the game that makes the same of the same player. -/
theorem modifyGame (hR : OverlooksFoe R) {f : Game → Game}
    (hf : ∀ g g' : Game, g.player = g'.player → (f g).player = (f g').player) :
    Respects R (Play.modifyGame f) :=
  .modify fun _ _ h => hR.setGame h (hf _ _ (hR.player h))

/-- Alike worlds with the same foe are a `Likeness` too, one that does not overlook it. -/
private theorem withFoe (hR : OverlooksFoe R) :
    Likeness fun w w' => R w w' ∧ w.game = w'.game where
  phrasebook h := hR.phrasebook h.1
  disk h := hR.disk h.1
  answers h := hR.answers h.1
  picks h := hR.picks h.1
  -- nothing of this changes the game
  setLanguage h language := ⟨hR.setLanguage h.1 language, h.2⟩
  setDisk h disk := ⟨hR.setDisk h.1 disk, h.2⟩
  setDesk h f := ⟨hR.setDesk h.1 f, h.2⟩
  log h e := ⟨hR.log h.1 e, h.2⟩
  setAnswers h answers := ⟨hR.setAnswers h.1 answers, h.2⟩
  setPicks h picks := ⟨hR.setPicks h.1 picks, h.2⟩

/-- What is done `InGame` once the foe is the same. -/
theorem inGame (hR : OverlooksFoe R) {p : Play α} (h : InGame p) :
    Respects (fun w w' => R w w' ∧ w.game = w'.game) p :=
  h.respects hR.withFoe And.right fun h _ => ⟨hR.setGame h.1 rfl, rfl⟩

/-- `Battle.meet` brings a foe in over the one before. If an amount cannot be read, part of the old
    foe is left in each of the worlds; else they have the same foe. -/
theorem meet (hR : OverlooksFoe R) (hp damage : Amount) (name : String) {w w' : World}
    (h : R w w') :
    (Battle.meet hp damage name w).1 = (Battle.meet hp damage name w').1 ∧
    R (Battle.meet hp damage name w).2 (Battle.meet hp damage name w').2 ∧
    ((Battle.meet hp damage name w).1 = .ok () →
      (Battle.meet hp damage name w).2.game = (Battle.meet hp damage name w').2.game) := by
  have hplayer := hR.player h
  unfold Battle.meet
  -- the points are read before the damage, and the fight is on only if both can be
  cases hp.read with
  | error f =>
    refine ⟨rfl, hR.setGame h hplayer, fun hok => ?_⟩
    cases hok
  | ok points =>
    cases damage.read with
    | error f =>
      refine ⟨rfl, hR.setGame h hplayer, fun hok => ?_⟩
      cases hok
    | ok strength =>
      refine ⟨rfl, hR.setGame h hplayer, fun _ => ?_⟩
      show Game.mk w.game.player _ true = Game.mk w'.game.player _ true
      rw [hplayer]

/-- A `fight` does not depend on the foe before it. -/
theorem fight (hR : OverlooksFoe R) (hp damage : Amount) (name : String) :
    Respects R (Battle.fight hp damage name) := by
  have hrest : OffDisk (do
      let g := (← get).game
      tell "fight_title" [.text (Text.upper g.foe.name)]
      tell "enemy_stats" [.int g.foe.damage, .int g.foe.hp]
      tell "player_stats" [.int g.player.damage, .int g.player.hp]
      repeatTurn Battle.round) :=
    .look (fun _ => .bind (.tell _ _) fun _ => .bind (.tell _ _) fun _ => .bind (.tell _ _) fun _ =>
      OffDisk.rules.repeatTurn OffDisk.round) fun _ _ hgame _ => by simp only [hgame]
  intro w w' h
  obtain ⟨hresult, hworld, hfoe⟩ := hR.meet hp damage name h
  rw [Battle.fight, run_bind, run_bind]
  -- the foe may differ up to here, and after a fault it still may
  obtain ⟨m, v, v', hv, hv'⟩ | ⟨_, v, v', hv, hv'⟩ := cases_of_fst_eq hresult <;>
    rw [hv, hv'] at hworld hfoe ⊢
  · exact ⟨rfl, hworld⟩
  · -- from here on the foe is the same in both worlds
    obtain ⟨hsame, hafter, -⟩ := hR.inGame hrest.inGame v v' ⟨hworld, hfoe rfl⟩
    exact ⟨hsame, hafter⟩

/-- The prompt, with all that it does in stories, cannot tell alike worlds apart. -/
theorem rules (hR : OverlooksFoe R) : PromptRules (Respects R) where
  pure := .pure
  fail := .fail
  bind := .bind
  traced := .traced
  lookAnswers next same := .look next fun w w' h => same w w' (hR.answers h)
  print := hR.print
  pause := hR.pause
  tell := hR.tell
  askPhrase := hR.askPhrase
  lookPlayer next same := .look next fun w w' h => same w w' (hR.player h)
  -- the player is the same in both games, so it is changed alike
  modifyPlayer f := hR.modifyGame fun g g' hplayer => by rw [hplayer]
  fight := hR.fight
  lookDisk next same := .look next fun w w' h => same w w' (hR.disk h)
  ensureStories := hR.ensureFolder _
  lookPhrasebook next same := .look next fun w w' h => same w w' (hR.phrasebook h)
  modifyDesk f := .modify fun _ _ h => hR.setDesk h f

end OverlooksFoe

/-! ## The prompt -/

namespace Likeness

variable {R : World → World → Prop}

/-- Settings are written with the same time of day, if alike worlds have the same. -/
theorem save (hR : Likeness R) (hclock : ∀ {w w'}, R w w' → w.clock = w'.clock) :
    Respects R Settings.save := by
  refine .modify fun w w' h => ?_
  have hwrite (text : List Char) : w.disk.write Settings.file (Text.Utf8.encode text) =
      w'.disk.write Settings.file (Text.Utf8.encode text) := by rw [hR.disk h]
  have hjson : Settings.toJson w.phrasebook.language w.clock =
      Settings.toJson w'.phrasebook.language w'.clock := by rw [hR.phrasebook h, hclock h]
  dsimp only
  rw [hjson, hwrite]
  -- the settings can be written on both disks or on neither
  split
  · exact hR.setDisk h _
  · exact h

end Likeness

namespace OverlooksFoe

variable {R : World → World → Prop}

/-- Choosing a language does not depend on the foe. -/
theorem changeLanguage (hR : OverlooksFoe R) (hclock : ∀ {w w'}, R w w' → w.clock = w'.clock)
    (code : String) : Respects R (Prompt.changeLanguage code) :=
  hR.rules.changeLanguage (fun _ => .modify fun _ _ h => hR.setLanguage h _) (hR.save hclock) code

/-- A line typed at the prompt does not depend on the foe. -/
theorem command (hR : OverlooksFoe R) (hclock : ∀ {w w'}, R w w' → w.clock = w'.clock)
    (typed : String) : Respects R (Prompt.command typed) :=
  hR.rules.command_of_changeLanguage (hR.changeLanguage hclock) typed

end OverlooksFoe

/-! ## Before the first line -/

theorem Likeness.writeEnglish {R : World → World → Prop} (hR : Likeness R) :
    Respects R Phrasebook.writeEnglish :=
  hR.writeText _ _

section Packs

-- files are read as deep in both worlds, and the packs may be set to the same ones
variable {R : World → World → Prop} (hR : OverlooksFoe R)
  (hnesting : ∀ {w w'}, R w w' → w.nesting = w'.nesting)
  (hset : ∀ {w w'}, R w w' → ∀ phrasebook, R { w with phrasebook } { w' with phrasebook })
include hR hnesting

theorem OverlooksFoe.loadSettings : Respects R Settings.load := by
  refine .modify fun w w' h => ?_
  have hlanguage : Settings.language? w.nesting w.disk = Settings.language? w'.nesting w'.disk := by
    rw [hnesting h, hR.disk h]
  rw [hlanguage]
  split
  · exact hR.setLanguage h _
  · exact h

include hset

theorem OverlooksFoe.readFolder : Respects R Phrasebook.readFolder := by
  have hread : Respects R (do
      let files ← Play.listFolder Phrasebook.folder
      modify fun w =>
        { w with phrasebook := Phrasebook.addFiles w.nesting w.disk files w.phrasebook }) := by
    refine .bind (hR.rules.listFolder _) fun files => .modify fun w w' h => ?_
    have hbook : Phrasebook.addFiles w.nesting w.disk files w.phrasebook =
        Phrasebook.addFiles w'.nesting w'.disk files w'.phrasebook := by
      rw [hnesting h, hR.disk h, hR.phrasebook h]
    rw [hbook]
    exact hset h _
  refine .bind (.modify fun w w' h => ?_) fun _ => ?_
  · -- the tables are emptied in both worlds
    rw [← hR.phrasebook h]
    exact hset h _
  · refine hR.rules.lookDisk (fun w => ?_) fun w w' hdisk => by rw [hdisk]
    split
    · exact .bind (hR.ensureFolder _) fun _ => .bind hR.writeEnglish fun _ => hread
    · exact hread

theorem OverlooksFoe.loadPacks : Respects R Phrasebook.load := by
  refine .bind (hR.readFolder hnesting hset) fun _ => ?_
  refine hR.rules.lookPhrasebook (fun w => ?_) fun w w' hbook => by rw [hbook]
  split
  · exact .bind hR.writeEnglish fun _ => hR.readFolder hnesting hset
  · exact .pure _

/-- What comes before the first line at the prompt does not depend on the foe. -/
theorem OverlooksFoe.greet : Respects R Prompt.greet :=
  .bind (hR.loadSettings hnesting) fun _ => .bind (hR.loadPacks hnesting hset) fun _ =>
    .bind (hR.ensureFolder _) fun _ => hR.rules.welcome

end Packs

end Gamebook.Play

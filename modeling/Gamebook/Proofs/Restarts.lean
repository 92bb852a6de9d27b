import Gamebook.Proofs.Calls
import Gamebook.Proofs.Quiet
import Gamebook.Proofs.Session

/-!
# Languages that survive restarts

Between two starts of the program only the disk stays. A language that was chosen is in the settings
there, and it is still in them after any calls and sessions, whether they fail or not, until another
one is chosen. After a restart the settings have to be loaded before they are written again: a
program that has just started does not know yet which language was chosen.

A history is a row of calls and restarts, and of changes to the rest of the disk that others make in
between. `World.chosen` gives the codes of all languages that are chosen in it, those chosen at the
prompt of a session included.

## Key results

- `exec_changeLanguage_of_known`: what choosing a language does
- `Remembers.turn`, `Remembers.session`: a turn at the prompt, and a whole session
- `Remembers.doing`: what one entry of a history leaves in the settings
- `chosen_language_survives_restarts`: the language chosen last comes back after a restart
-/

namespace Gamebook

open Play

/-! ## Choosing a language -/

namespace Prompt

/-- The code of a language that was to be chosen, if it was. -/
def chosenBy (code : String) (out : Except Fault Bool × World) : Option String :=
  if out.1.toOption = some true then some code else none

/-- The code of the language that is chosen in the next turn at the prompt. -/
def chosenInTurn (w : World) : Option String :=
  match (askPhrase "enter_command" []).exec w with
  | (.error _, _) => none
  | (.ok typed, v) =>
    match languageAsked? typed with
    | none => none
    | some code => chosenBy code ((tryLanguage typed code).exec v)

/-- The codes of the languages that are chosen in the next turns at the prompt, as many as there are
    up to a bound. -/
def chosenInTurns : (turns : Nat) → World → List String
  | 0, _ => []
  | turns + 1, w =>
    (chosenInTurn w).toList ++
      match turn.exec w with
      | (.ok none, v) => chosenInTurns turns v
      | _ => []

/-- The codes of the languages that are chosen in a session. -/
def chosenInSession (w : World) : List String :=
  match greet.exec w with
  | (.error _, _) => []
  | (.ok _, v) => chosenInTurns (v.console.answers.length + 1) v

example : chosenInTurns 3
    { phrasebook := { packs := [("de", []), ("fr", [])] }
      console := { answers := [.line " LANG de ", .line "lang xx", .line "lang fr"] } } =
    ["de", "fr"] := by decide +kernel

variable {code : String} {w : World}

/-- `changeLanguage` with the code of a pack succeeds, and the settings have it afterwards. -/
theorem exec_changeLanguage_of_known {name : Json}
    (hname : Table.get? w.phrasebook.languages code = some name) (hroom : Settings.HasRoom w.disk) :
    ∃ v, (changeLanguage code).exec w = (.ok true, v) ∧ v.phrasebook.language = .str code ∧
      Settings.HasRoom v.disk ∧ ∀ inner, Settings.language? inner v.disk = some (.str code) := by
  -- the new language is a code, so there is a phrase to tell it with
  let book : Phrasebook := { w.phrasebook with language := .str code }
  obtain ⟨text, htext⟩ := book.phrase_of_isCode "lang_changed" [.value name] rfl
  let u : World :=
    { w with phrasebook := book, console := w.console.log (.print text.display.shown) }
  -- the settings are written with the new language in force
  have hsave : Settings.save.exec u =
      (.ok (), { u with disk := Settings.withFile w.disk (Settings.bytes u) }) :=
    Settings.exec_save hroom
  refine ⟨{ u with disk := Settings.withFile w.disk (Settings.bytes u) }, ?_, rfl,
    Settings.hasRoom_withFile w.disk (Settings.bytes u),
    fun inner => Settings.language?_saved_code inner (w := u) rfl⟩
  simp only [changeLanguage, exec_bind, exec_get, hname, exec_modify, exec_tell]
  rw [htext]
  dsimp only
  rw [hsave]
  rfl

/-- `changeLanguage` with any other code chooses nothing and changes nothing. -/
private theorem sameSettings_of_unknown (hname : Table.get? w.phrasebook.languages code = none) :
    chosenBy code ((changeLanguage code).exec w) = none ∧
      w.SameSettings ((changeLanguage code).exec w).2 := by
  simp only [changeLanguage, exec_bind, exec_get, hname, exec_tell]
  cases w.phrasebook.phrase "invalid_lang" [.value (.str w.phrasebook.choices)] with
  | ok text => exact ⟨rfl, rfl, rfl⟩
  | error f => exact ⟨rfl, rfl, rfl⟩

end Prompt

/-! ## What the settings remember -/

/-- `Remembers last fresh w`: the settings in `w` have the language `last`, if one was chosen.
    Unless the program is `fresh`, that language is in force. -/
structure World.Remembers (last : Option String) (fresh : Bool) (w : World) : Prop where
  room : Settings.HasRoom w.disk
  settings : ∀ code ∈ last, ∀ inner, Settings.language? inner w.disk = some (.str code)
  language : fresh = false → ∀ code ∈ last, w.phrasebook.language = .str code

/-- What is returned after a step does not matter to the world. -/
private theorem exec_snd_of_return {α β : Type} (p : Play α) (b : β) (w : World) :
    ((do let _ ← p; return b : Play β).exec w).2 = (p.exec w).2 := by
  rw [exec_bind]
  rcases p.exec w with ⟨f | a, v⟩ <;> rfl

private theorem getLast?_toList {α : Type} (a : Option α) : a.toList.getLast? = a := by
  cases a <;> rfl

namespace World.Remembers

variable {last : Option String} {fresh : Bool} {w v : World}

/-- A world of the `SameSettings` remembers the same. -/
private theorem of_same (h : Remembers last fresh w) (hsame : w.SameSettings v) :
    Remembers last fresh v where
  room entries hfolder := h.room entries (hsame.file ▸ hfolder)
  settings code hcode inner :=
    (Settings.language?_congr hsame.file).trans (h.settings code hcode inner)
  language hfresh code hcode := hsame.language.trans (h.language hfresh code hcode)

/-- What is `Quiet` does not make the settings forget. -/
theorem quiet {α : Type} {p : Play α} (h : Remembers last fresh w) (hp : Quiet p) :
    Remembers last fresh (p.exec w).2 :=
  h.of_same (hp w)

/-- Once the settings are loaded, the language that they remember is in force. -/
theorem load (h : Remembers last fresh w) : Remembers last false (Settings.load.exec w).2 := by
  rw [Prompt.exec_loadSettings]
  refine ⟨h.room, h.settings, fun _ code hcode => ?_⟩
  simp only [Prompt.languageOf, h.settings code hcode w.nesting, Option.getD_some]

/-- Settings can be written again if the language is in force. -/
theorem save (h : Remembers last false w) : Remembers last false (Settings.save.exec w).2 := by
  rw [Settings.exec_save h.room]
  exact ⟨Settings.hasRoom_withFile _ _,
    fun code hcode inner => Settings.language?_saved_code inner (h.language rfl code hcode),
    h.language⟩

/-- A language that is chosen with `changeLanguage` takes the place of the one before. -/
theorem changeLanguage (h : Remembers last fresh w) (code : String) :
    Remembers ((Prompt.chosenBy code ((Prompt.changeLanguage code).exec w)).or last) fresh
      ((Prompt.changeLanguage code).exec w).2 := by
  cases hname : Table.get? w.phrasebook.languages code with
  | none =>
    obtain ⟨hnone, hsame⟩ := Prompt.sameSettings_of_unknown hname
    rw [hnone]
    exact h.of_same hsame
  | some name =>
    obtain ⟨v, hchange, hlanguage, hroom, hsettings⟩ :=
      Prompt.exec_changeLanguage_of_known hname h.room
    rw [hchange]
    -- what was chosen last is now `code`
    refine ⟨hroom, fun c hc => ?_, fun _ c hc => ?_⟩ <;> cases hc
    · exact hsettings
    · exact hlanguage

/-! ## Sessions -/

/-- A language asked for at the prompt: what is kept on the desk before it is chosen does not
    matter. -/
theorem tryLanguage (h : Remembers last fresh w) (typed code : String) :
    Remembers ((Prompt.chosenBy code ((Prompt.tryLanguage typed code).exec w)).or last) fresh
      ((Prompt.tryLanguage typed code).exec w).2 :=
  ((h.quiet (Prompt.quiet_rules.keep _ _)).quiet (Prompt.quiet_rules.keep _ _)).changeLanguage code

/-- A line that is asked for and carried out. Only one that asks for a language can choose one. -/
theorem attempt (h : Remembers last fresh w) :
    Remembers ((Prompt.chosenInTurn w).or last) fresh (Prompt.attempt.exec w).2 := by
  have hask := h.quiet (Prompt.quiet_rules.askPhrase "enter_command" [])
  rw [Prompt.attempt, Prompt.chosenInTurn]
  -- nothing was typed, or the line asks for a language, or for something else
  rcases hrun : (askPhrase "enter_command" []).exec w with ⟨f | typed, u⟩ <;> rw [hrun] at hask
  · rw [exec_bind_of_error hrun]
    exact hask
  · rw [exec_bind_of_ok hrun, exec_snd_of_return]
    cases hasked : Prompt.languageAsked? typed with
    | none =>
      simp only [hasked]
      exact hask.quiet (Prompt.quiet_rules.command_of_not_asked hasked)
    | some code =>
      simp only [hasked]
      rw [Prompt.command_of_languageAsked hasked, exec_map]
      exact hask.tryLanguage typed code

/-- A `turn` at the prompt. What it runs into does not matter. -/
theorem turn (h : Remembers last fresh w) :
    Remembers ((Prompt.chosenInTurn w).or last) fresh (Prompt.turn.exec w).2 := by
  have hattempt := h.attempt
  have hturn : Prompt.turn.exec w = _ := exec_tryCatch Prompt.attempt Prompt.recover w
  rcases hrun : Prompt.attempt w with ⟨m | a, v⟩ <;> rw [hrun] at hturn <;> rw [hturn]
  · -- the fault is told, in the world that the attempt has left
    rw [exec_of_error hrun] at hattempt
    exact hattempt.quiet (Prompt.quiet_recover m)
  · rw [exec_of_ok hrun] at hattempt
    exact hattempt

/-- Turns at the prompt, as many as there are up to a bound. -/
theorem turns (h : Remembers last fresh w) (turns : Nat) :
    Remembers ((Prompt.chosenInTurns turns w).getLast?.or last) fresh
      ((untilResult Prompt.turn turns).exec w).2 := by
  -- what was chosen last changes from turn to turn
  induction turns generalizing w last with
  | zero => exact h
  | succ turns ih =>
    have hturn := h.turn
    rw [Prompt.chosenInTurns, exec_untilResult_succ, List.getLast?_append, Option.or_assoc,
      getLast?_toList]
    rcases hrun : Prompt.turn.exec w with ⟨f | (_ | _), v⟩ <;> rw [hrun] at hturn
    · exact hturn
    · exact ih hturn
    · exact hturn

/-- The start of a session, which loads the settings first of all. -/
theorem greet (h : Remembers last fresh w) : Remembers last false (Prompt.greet.exec w).2 := by
  -- what comes after the settings are loaded is quiet
  have hrest : Quiet (do Phrasebook.load; ensureFolder Story.folder; Prompt.welcome : Play Unit) :=
    .bind Phrasebook.quiet_load fun _ =>
      .bind Prompt.quiet_rules.ensureStories fun _ => Prompt.quiet_rules.welcome
  have hgreet : Prompt.greet.exec w = _ := exec_bind_of_ok (Prompt.exec_loadSettings w)
  have hload := h.load
  rw [Prompt.exec_loadSettings] at hload
  rw [hgreet]
  exact hload.quiet hrest

/-- A whole `session`: the start, and turns up to its end. -/
theorem session (h : Remembers last fresh w) :
    Remembers ((Prompt.chosenInSession w).getLast?.or last) false (Prompt.session.exec w).2 := by
  have hgreet := h.greet
  rw [Prompt.chosenInSession, Prompt.session]
  rcases hrun : Prompt.greet.exec w with ⟨f | _, v⟩ <;> rw [hrun] at hgreet
  · rw [exec_bind_of_error hrun]
    exact hgreet
  · rw [exec_bind_of_ok hrun, exec_repeatTurn]
    exact hgreet.turns _

end World.Remembers

/-! ## Histories -/

/-- What can happen to a world. -/
inductive Doing where
  /-- Something is called. -/
  | call (called : Call) (occasion : Occasion)
  /-- The program is started anew, perhaps by itself. -/
  | restart (alone : Bool)
  /-- Others give the disk these entries, but leave the settings as they are. -/
  | elsewhere (entries : Table String Node)

/-- A world in which the program has just started: only the disk is as it was. -/
def World.restarted (w : World) (alone : Bool) : World := { disk := w.disk, alone }

namespace Settings

/-- A disk with other entries, but with the settings that it has. -/
def keptIn (entries : Table String Node) (d : Disk) : Disk :=
  match Table.get? d.entries file with
  | some node => { d with entries := Table.put entries file node }
  | none => { d with entries := Table.erase entries file }

/-- The settings are `keptIn` as they were. -/
private theorem find_keptIn (entries : Table String Node) (d : Disk) :
    (keptIn entries d).find file = d.find file := by
  rw [find_file, find_file, keptIn]
  cases hget : Table.get? d.entries file with
  | some node => rw [Table.get?_put_self]
  | none => rw [Table.get?_erase_self]

end Settings

namespace Doing

/-- The world after something has happened. -/
def after (w : World) : Doing → World
  | .call called occasion => (called.perform.exec (w.during occasion)).2
  | .restart alone => w.restarted alone
  | .elsewhere entries => { w with disk := Settings.keptIn entries w.disk }

/-- The codes of the languages that are chosen in a call. -/
def chosen (w : World) : Doing → List String
  | .call (.changeLanguage code) occasion =>
    (Prompt.chosenBy code ((Prompt.changeLanguage code).exec (w.during occasion))).toList
  | .call .session occasion => Prompt.chosenInSession (w.during occasion)
  | _ => []

/-- Whether the program has just started and not loaded its settings, afterwards. -/
def isFresh (fresh : Bool) : Doing → Bool
  | .call .loadSettings _ => false
  | .call .session _ => false
  | .restart _ => true
  | _ => fresh

/-- Whether the settings are written by a call that does nothing else. -/
def isSave : Doing → Bool
  | .call .saveSettings _ => true
  | _ => false

end Doing

/-- The world after a history. -/
def World.afterAll (w : World) (history : List Doing) : World := history.foldl Doing.after w

/-- The codes of the languages that are chosen in a history, in their order. -/
def World.chosen (w : World) : List Doing → List String
  | [] => []
  | doing :: history => doing.chosen w ++ (doing.after w).chosen history

/-- After each restart the settings are loaded before they are written again. No such care is needed
    when a language is chosen: the settings get the one that is in force by then. -/
def LoadsFirst : (fresh : Bool) → List Doing → Prop
  | _, [] => True
  | fresh, doing :: history =>
    (doing.isSave = true → fresh = false) ∧ LoadsFirst (doing.isFresh fresh) history

instance decidableLoadsFirst : (fresh : Bool) → (history : List Doing) →
    Decidable (LoadsFirst fresh history)
  | _, [] => inferInstanceAs (Decidable True)
  | fresh, doing :: history =>
    have := decidableLoadsFirst (doing.isFresh fresh) history
    inferInstanceAs (Decidable (_ ∧ _))

namespace World.Remembers

variable {last : Option String} {fresh : Bool} {w : World}

theorem during (h : Remembers last fresh w) (occasion : Occasion) :
    Remembers last fresh (w.during occasion) :=
  h.of_same ⟨rfl, rfl⟩

/-- One call. Most leave the settings alone. -/
theorem call (h : Remembers last fresh w) (called : Call) (occasion : Occasion)
    (hsave : (Doing.call called occasion).isSave = true → fresh = false) :
    Remembers (((Doing.call called occasion).chosen w).getLast?.or last)
      ((Doing.call called occasion).isFresh fresh) ((Doing.call called occasion).after w) := by
  have hnow := h.during occasion
  rw [Doing.after]
  cases called with
  | loadSettings =>
    rw [Call.perform, exec_snd_of_return]
    exact hnow.load
  | saveSettings =>
    -- writing the settings needs the language in force
    obtain rfl := hsave rfl
    rw [Call.perform, exec_snd_of_return]
    exact hnow.save
  | session =>
    rw [Call.perform, exec_snd_of_return]
    exact hnow.session
  | changeLanguage code =>
    rw [Call.perform, exec_map, Doing.chosen, getLast?_toList]
    exact hnow.changeLanguage code
  | loadPacks => exact hnow.quiet (.bind Phrasebook.quiet_load fun _ => .pure _)
  | writeEnglish => exact hnow.quiet (.bind Phrasebook.quiet_writeEnglish fun _ => .pure _)
  | _ => exact hnow.quiet (Prompt.quiet_rules.call rfl)

/-- Whatever happens, the settings remember the language that was chosen last. -/
theorem doing (h : Remembers last fresh w) (doing : Doing)
    (hsave : doing.isSave = true → fresh = false) :
    Remembers ((doing.chosen w).getLast?.or last) (doing.isFresh fresh) (doing.after w) := by
  cases doing with
  | call called occasion => exact h.call called occasion hsave
  | restart alone => exact ⟨h.room, h.settings, fun hfresh => nomatch hfresh⟩
  | elsewhere entries => exact h.of_same ⟨rfl, Settings.find_keptIn entries w.disk⟩

/-- After any history, the settings remember the language that was chosen last. -/
private theorem afterAll (h : Remembers last fresh w) {history : List Doing}
    (hloads : LoadsFirst fresh history) :
    ∃ fresh', Remembers ((w.chosen history).getLast?.or last) fresh' (w.afterAll history) := by
  -- what was chosen last, and whether the settings are loaded, changes with each entry
  induction history generalizing w last fresh with
  | nil => exact ⟨fresh, h⟩
  | cons doing history ih =>
    obtain ⟨hsave, hrest⟩ := hloads
    obtain ⟨fresh', hafter⟩ := ih (h.doing doing hsave) hrest
    refine ⟨fresh', ?_⟩
    rw [World.chosen, List.getLast?_append, Option.or_assoc]
    exact hafter

end World.Remembers

/-- A language survives restarts. Start with any world that has room for its settings; let anything
    be called in it, from within sessions or from outside, with any answers and any result, let the
    program be restarted and the rest of the disk be changed, as often as one likes and in any
    order. If the settings are loaded after each restart before they are written again, the language
    chosen last is the one that the settings give back after one more restart. -/
theorem chosen_language_survives_restarts {w : World} (hroom : Settings.HasRoom w.disk)
    {history : List Doing} (hloads : LoadsFirst false history) {code : String}
    (hlast : (w.chosen history).getLast? = some code) (alone : Bool) :
    (Settings.load.exec ((w.afterAll history).restarted alone)).1 = .ok () ∧
    (Settings.load.exec ((w.afterAll history).restarted alone)).2.phrasebook.language =
      .str code := by
  -- to begin with there is nothing to remember
  have hstart : w.Remembers none false := ⟨hroom, fun _ h => (nomatch h), fun _ _ h => (nomatch h)⟩
  obtain ⟨fresh, hafter⟩ := hstart.afterAll hloads
  rw [hlast] at hafter
  -- one more restart makes the program fresh, and loading puts the language in force
  have hrestart := hafter.doing (.restart alone) (fun h => nomatch h)
  refine ⟨by rw [Prompt.exec_loadSettings], ?_⟩
  exact hrestart.load.language rfl code rfl

/-- A world with two packs, one of them of a language whose code has to be escaped. -/
def oddStart : World := { phrasebook := { packs := [("f\"r\\", []), ("de", [])] } }

/-- A history with all that could make the settings forget: languages that are not chosen, restarts,
    a disk without packs, a session that cannot start and a fight that fails. -/
def oddHistory : List Doing :=
  [.call (.changeLanguage "de") {}, .call (.changeLanguage "f\"r\\") { clock := "noon" },
   .call (.changeLanguage "xx") {}, .restart true, .call (.changeLanguage "de") {},
   .elsewhere [("langs", .file [])], .call .session { answers := [.line "lang de"] },
   .call (.fight (.text "x") (.number 1) "foe") {}, .call .saveSettings { clock := "night" }]

theorem odd_language_survives_restarts :
    Settings.HasRoom oddStart.disk ∧ LoadsFirst false oddHistory ∧
    (oddStart.chosen oddHistory).getLast? = some "f\"r\\" ∧
    (Settings.load.exec ((oddStart.afterAll oddHistory).restarted false)).2.phrasebook.language =
      .str "f\"r\\" := by
  have hloads : LoadsFirst false oddHistory := by decide
  have hlast : (oddStart.chosen oddHistory).getLast? = some "f\"r\\" := by decide +kernel
  exact ⟨Settings.hasRoom_empty, hloads, hlast,
    (chosen_language_survives_restarts Settings.hasRoom_empty hloads hlast false).2⟩

end Gamebook

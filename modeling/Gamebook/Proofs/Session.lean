import Gamebook.Proofs.Answers
import Gamebook.Proofs.Packs
import Gamebook.Proofs.PromptRules

/-!
# How sessions end

A session fails only before it has asked anything: when no pack can be loaded, or when the settings
have left it with a language that is no code. Every other session goes on until the player breaks
off or there are no answers left, and then says so. Whatever a command runs into, the prompt tells
it and goes on.

## Key results

- `orderly_command`: a command pays for its questions
- `exec_turn`: a turn at the prompt, and what it costs
- `session_ends`: how a session ends
-/

namespace Gamebook.Prompt

open Play Event

/-! ## Commands -/

/-- The prompt is `Orderly`, as games are. -/
private theorem orderly_rules : PromptRules Orderly :=
  .of_inGame InGame.orderly .bind .traced (fun next => .bind .get next)
    fun _ => .modify (fun _ => rfl) fun _ => id

private theorem orderly_save : Orderly Settings.save := by
  refine .modify (fun w => ?_) fun w hcode => ?_
  · dsimp only
    split <;> rfl
  · dsimp only
    split <;> exact hcode

/-- Every `command` is `Orderly`. If it changes the language, the new one `isCode`. -/
theorem orderly_command (typed : String) : Orderly (command typed) :=
  orderly_rules.command_of_changeLanguage
    (orderly_rules.changeLanguage (fun _ => .modify (fun _ => rfl) fun _ _ => rfl) orderly_save)
    typed

/-! ## Turns at the prompt -/

/-- The faults that end a session. -/
def isBreak : Fault → Bool
  | .endOfInput _ => true
  | .interrupted => true
  | _ => false

/-- A session that started in `w` has shut down in `v`: it has told so at its end, and has asked at
    most once more than there were answers. -/
def ShutDown (w v : World) : Prop :=
  ∃ added text,
    v.console.events.toList = w.console.events.toList ++ added ++ [.print text.display.shown] ∧
    v.phrasebook.phrase "emulator_shutdown" [] = .ok text ∧
    questions added ≤ w.console.answers.length + 1

/-- `recover` in a world whose language `isCode`: a fault that `isBreak` shuts the session down, and
    any other one is told. -/
private theorem exec_recover (m : Mishap) {v : World}
    (hcode : Phrasebook.isCode v.phrasebook.language = true) :
    (isBreak m.fault = true ∧ ∃ text, v.phrasebook.phrase "emulator_shutdown" [] = .ok text ∧
      (recover m).exec v =
        (.ok (some ()), { v with console := v.console.log (.print text.display.shown) })) ∨
    (isBreak m.fault = false ∧ ∃ text,
      (recover m).exec v = (.ok none, { v with console := v.console.log (.print text) })) := by
  obtain ⟨text, htext⟩ := v.phrasebook.phrase_of_isCode "emulator_shutdown" [] hcode
  obtain ⟨told, htold⟩ :=
    v.phrasebook.phrase_of_isCode "error" [.fault (report m v)] hcode
  unfold recover
  -- the two faults that end a session, and all the others
  cases hfault : m.fault
  case endOfInput =>
    refine .inl ⟨rfl, text, htext, ?_⟩
    simp only [exec_bind, exec_tell, htext, exec_pure]
  case interrupted =>
    refine .inl ⟨rfl, text, htext, ?_⟩
    simp only [exec_bind, exec_tell, htext, exec_pure]
  all_goals
    refine .inr ⟨rfl, told.display.shown, ?_⟩
    simp only [exec_bind, exec_get, exec_tell, htold, exec_pure]

/-- A `turn` at the prompt before anything is caught. -/
def attempt : Play (Option Unit) := do
  command (← askPhrase "enter_command" [])
  return none

private theorem orderly_attempt : Orderly attempt :=
  .bind (.askPhrase _ _) fun typed => .bind (orderly_command typed) fun _ => .pure none

/-- The question for a command fails only with a fault that `isBreak`. -/
private theorem isBreak_of_askPhrase {key : String} {args : List Template.Arg} {w v : World}
    {f : Fault}
    (hcode : Phrasebook.isCode w.phrasebook.language = true)
    (h : (askPhrase key args).exec w = (.error f, v)) : isBreak f = true := by
  obtain ⟨text, htext⟩ := w.phrasebook.phrase_of_isCode key args hcode
  rw [exec_askPhrase, htext] at h
  dsimp only at h
  rw [exec_ask] at h
  split at h
  · cases h
    rfl
  · -- there is an answer, but it may be the end of the input or an interrupt
    rename_i answer answers _
    obtain ⟨hf, -⟩ := Prod.mk.inj h
    cases answer <;> cases hf <;> rfl

/-- An `attempt` that does not end the session has used up an answer. -/
private theorem answers_lt_of_attempt {w v : World} {r : Except Fault (Option Unit)}
    (hcode : Phrasebook.isCode w.phrasebook.language = true) (h : attempt.exec w = (r, v))
    (hr : ∀ f, r = .error f → isBreak f = false) :
    v.console.answers.length < w.console.answers.length := by
  rcases hask : (askPhrase "enter_command" []).exec w with ⟨f | typed, u⟩
  · -- if even the question fails, that ends the session
    have hbreak := isBreak_of_askPhrase hcode hask
    cases (exec_bind_of_error hask).symm.trans h
    rw [hr f rfl] at hbreak
    cases hbreak
  · have hrest : Orderly (do command typed; return none : Play (Option Unit)) :=
      .bind (orderly_command typed) fun _ => .pure none
    have hle := hrest.answers_le u
    rw [(exec_bind_of_ok hask).symm.trans h] at hle
    exact Nat.lt_of_le_of_lt hle (answers_lt_of_askPhrase hask)

/-- An `attempt` has no result but that the session goes on. -/
private theorem eq_none_of_attempt {w v : World} {a : Option Unit}
    (h : attempt.exec w = (.ok a, v)) :
    a = none := by
  obtain ⟨_, _, -, h⟩ := exists_of_exec_bind h
  obtain ⟨_, _, -, h⟩ := exists_of_exec_bind h
  cases h
  rfl

/-- What was `Paid` for before a `ShutDown` is part of the session. -/
theorem ShutDown.after {w v u : World} (hpaid : Paid w v) (h : ShutDown v u) : ShutDown w u := by
  obtain ⟨-, before, hbefore, hanswers⟩ := hpaid
  obtain ⟨added, text, hadded, htext, hle⟩ := h
  refine ⟨before ++ added, text, ?_, htext, ?_⟩
  · rw [hadded, hbefore, List.append_assoc w.console.events.toList]
  · rw [questions_append]
    omega

/-- A session is `ShutDown` by the line that tells so, after a last step that `Pays`. -/
private theorem ShutDown.of_pays {w v : World} {f : Fault} {text : Json}
    (h : Pays w ((.error f : Except Fault (Option Unit)), v))
    (htext : v.phrasebook.phrase "emulator_shutdown" [] = .ok text) :
    ShutDown w { v with console := v.console.log (.print text.display.shown) } := by
  obtain ⟨-, added, hadded, hpaid⟩ := h
  refine ⟨added, text, ?_, htext, ?_⟩
  · rw [Console.events_log, hadded]
  · -- at most one question found no answer
    rcases hpaid with hpaid | ⟨hpaid, -, -⟩ <;> omega

/-- A `turn` never fails. The session goes on and there is an answer fewer, or it is `ShutDown`. -/
theorem exec_turn {w : World} (hcode : Phrasebook.isCode w.phrasebook.language = true) :
    (∃ v, turn.exec w = (.ok none, v) ∧ Paid w v ∧
      v.console.answers.length < w.console.answers.length) ∨
    ∃ v, turn.exec w = (.ok (some ()), v) ∧ ShutDown w v := by
  have hpays := orderly_attempt w
  have hturn : turn.exec w = _ := exec_tryCatch attempt recover w
  rcases hrun : attempt w with ⟨m | a, v⟩ <;> rw [hrun] at hturn
  · -- a fault is told: it ends the session, or the question before it was answered
    have hexec := exec_of_error hrun
    rw [hexec] at hpays
    rcases exec_recover m (hpays.code hcode) with
      ⟨-, text, htext, hrecover⟩ | ⟨hgoes, text, hrecover⟩
    · exact .inr ⟨_, hturn.trans hrecover, .of_pays hpays htext⟩
    · have hpaid : Paid w v := hpays.paid fun hend => by
        cases (Except.error.inj hend).symm ▸ hgoes
      have hfewer : v.console.answers.length < w.console.answers.length :=
        answers_lt_of_attempt hcode hexec fun f hf => Except.error.inj hf ▸ hgoes
      exact .inl ⟨_, hturn.trans hrecover, hpaid.shown text, hfewer⟩
  · -- nothing to catch: the command was carried out
    have hexec := exec_of_ok hrun
    rw [hexec] at hpays
    cases eq_none_of_attempt hexec
    refine .inl ⟨v, hturn, hpays.paid fun hend => ?_, ?_⟩
    · cases hend
    · exact answers_lt_of_attempt hcode hexec fun f hf => by cases hf

/-- If the language is not one that `isCode`, a `turn` can neither ask nor tell why. -/
private theorem exec_turn_of_not_isCode {w : World}
    (hcode : Phrasebook.isCode w.phrasebook.language = false) :
    turn.exec w = (.error (.notLanguage w.phrasebook.language), w) := by
  have hphrase := fun key args => w.phrasebook.phrase_of_not_isCode key args hcode
  have hask : (askPhrase "enter_command" []).exec w =
      (.error (.notLanguage w.phrasebook.language), w) := by
    rw [exec_askPhrase, hphrase]
  have hexec : attempt.exec w = _ := exec_bind_of_error hask
  have hturn : turn.exec w = _ := exec_tryCatch attempt recover w
  rcases hrun : attempt w with ⟨m | a, v⟩ <;> rw [hrun] at hturn
  · -- the fault is caught, but there are no words to tell it in either
    obtain ⟨hfault, rfl⟩ := Prod.mk.inj ((exec_of_error hrun).symm.trans hexec)
    have hfault : m.fault = .notLanguage _ := Except.error.inj hfault
    rw [hturn]
    simp only [recover, hfault, exec_bind, exec_get, exec_tell, hphrase]
  · cases (exec_of_ok hrun).symm.trans hexec

/-- A `turn` at the prompt uses up an answer, as a round of a fight and a turn at a menu do. -/
private theorem usesAnswer_turn : UsesAnswer turn := by
  intro w w' h
  cases hcode : Phrasebook.isCode w.phrasebook.language with
  | false => cases (exec_turn_of_not_isCode hcode).symm.trans h
  | true =>
    obtain ⟨v, hturn, -, hfewer⟩ | ⟨v, hturn, -⟩ := exec_turn hcode <;> cases hturn.symm.trans h
    exact hfewer

/-- Turns at the prompt go on until the session is `ShutDown`. -/
private theorem shutDown_of_repeats {w : World} {out : Except Fault Unit × World}
    (h : Repeats turn w out)
    (hcode : Phrasebook.isCode w.phrasebook.language = true) :
    out.1 = .ok () ∧ ShutDown w out.2 := by
  -- a turn that goes on leaves a language that is a code, and so the next one is alike
  induction h with
  | done h =>
    obtain ⟨v, hturn, -⟩ | ⟨v, hturn, hdown⟩ := exec_turn hcode <;> cases hturn.symm.trans h
    exact ⟨rfl, hdown⟩
  | fault h =>
    obtain ⟨v, hturn, -⟩ | ⟨v, hturn, -⟩ := exec_turn hcode <;> cases hturn.symm.trans h
  | again h _ ih =>
    obtain ⟨v, hturn, hpaid, -⟩ | ⟨v, hturn, -⟩ := exec_turn hcode <;> cases hturn.symm.trans h
    obtain ⟨hok, hdown⟩ := ih (hpaid.code hcode)
    exact ⟨hok, hdown.after hpaid⟩

/-! ## Sessions -/

/-- The language of a session that starts in `w`: that of its settings, if they have one. -/
def languageOf (w : World) : Json :=
  (Settings.language? w.nesting w.disk).getD w.phrasebook.language

/-- What keeps a session from its start: there are `NoPacks`, or its language is a list or a
    dictionary. -/
def NotReady (w : World) : Prop :=
  Phrasebook.NoPacks w.nesting w.disk ∨ Phrasebook.isCode (languageOf w) = false

/-- `Settings.load` decides on the language, and on nothing else. -/
theorem exec_loadSettings (w : World) :
    Settings.load.exec w =
      (.ok (), { w with phrasebook := { w.phrasebook with language := languageOf w } }) := by
  rw [Settings.load, exec_modify, languageOf]
  cases Settings.language? w.nesting w.disk <;> rfl

/-- `welcome` shows lines and asks nothing, if the language `isCode`. -/
private theorem exec_welcome {w : World} (hcode : Phrasebook.isCode w.phrasebook.language = true) :
    ∃ v, welcome.exec w = (.ok (), v) ∧ Paid w v := by
  have hrun : ∃ v, welcome.exec w = (.ok (), v) := by
    -- every line of the welcome has its words
    choose text htext using fun key args => w.phrasebook.phrase_of_isCode key args hcode
    obtain ⟨name, hname⟩ := Phrasebook.lookUp_of_isCode w.phrasebook.languages hcode
    simp only [welcome, exec_bind, exec_tell, exec_get, exec_orThrow, exec_modify, htext, hname]
    exact ⟨_, rfl⟩
  obtain ⟨v, hrun⟩ := hrun
  refine ⟨v, hrun, Pays.paid (hrun ▸ orderly_rules.welcome w) fun hend => ?_⟩
  cases hend

/-- If the language is not one that `isCode`, `welcome` shows nothing and fails. -/
private theorem exec_welcome_of_not_isCode {w : World}
    (hcode : Phrasebook.isCode w.phrasebook.language = false) :
    welcome.exec w = (.error (.notLanguage w.phrasebook.language), w) := by
  refine exec_bind_of_error ?_
  rw [exec_tell, w.phrasebook.phrase_of_not_isCode _ _ hcode]

/-- Once the packs are loaded, all that is left of `greet` is `welcome`. -/
private theorem exists_exec_greet {w v : World}
    (hload : Phrasebook.load.exec (Settings.load.exec w).2 = (.ok (), v)) :
    ∃ u, greet.exec w = welcome.exec u ∧ u.phrasebook = v.phrasebook ∧ u.console = v.console := by
  have hgreet : greet.exec w = _ := exec_bind_of_ok (exec_loadSettings w)
  rw [exec_loadSettings] at hload
  rw [hgreet, exec_bind_of_ok hload, exec_bind_of_ok (exec_ensureFolder _ v)]
  split
  · exact ⟨v, rfl, rfl, rfl⟩
  · exact ⟨_, rfl, rfl, rfl⟩

/-- `greet` shows nothing and fails if the session is `NotReady`, and else shows lines alone. -/
private theorem exec_greet (w : World) :
    (NotReady w ∧ ∃ f v, greet.exec w = (.error f, v) ∧ v.console = w.console) ∨
    (¬ NotReady w ∧ ∃ v, greet.exec w = (.ok (), v) ∧ Paid w v ∧
      Phrasebook.isCode v.phrasebook.language = true) := by
  -- what is known of the world in which the packs are loaded, or are not
  have hloads := Phrasebook.loads_exec_load (Settings.load.exec w).2
  have hfault := hloads.fault_iff
  have hlanguage := hloads.language
  have hconsole := hloads.console
  rcases hload : Phrasebook.load.exec (Settings.load.exec w).2 with ⟨f | _, v⟩ <;>
    rw [hload] at hfault hlanguage hconsole <;>
    rw [exec_loadSettings] at hfault hlanguage hconsole
  · refine .inl ⟨.inl (hfault.1 ⟨f, rfl⟩), f, v, ?_, hconsole⟩
    rw [exec_loadSettings] at hload
    exact (exec_bind_of_ok (exec_loadSettings w)).trans (exec_bind_of_error hload)
  · have hpacks : ¬ Phrasebook.NoPacks w.nesting w.disk := fun hno => by
      obtain ⟨f, hf⟩ := hfault.2 hno
      cases hf
    -- the packs are loaded, and now the language decides
    obtain ⟨u, hgreet, hbook, hsame⟩ := exists_exec_greet hload
    have hsame : u.console = w.console := hsame.trans hconsole
    have hlanguage : u.phrasebook.language = languageOf w := by rw [hbook]; exact hlanguage
    cases hcode : Phrasebook.isCode (languageOf w) with
    | false =>
      refine .inl ⟨.inr hcode, _, u, hgreet.trans (exec_welcome_of_not_isCode ?_), hsame⟩
      rw [hlanguage, hcode]
    | true =>
      rw [← hlanguage] at hcode
      obtain ⟨x, hwelcome, hpaid⟩ := exec_welcome hcode
      have hcode' := hpaid.code hcode
      refine .inr ⟨?_, x, hgreet.trans hwelcome, ⟨fun _ => hcode', hsame ▸ hpaid.events⟩, hcode'⟩
      rintro (hno | hno)
      · exact hpacks hno
      · rw [← hlanguage, hcode] at hno
        cases hno

/-- How a `session` ends. It fails exactly if it is `NotReady`, and then nothing was shown and
    nothing asked; any other session is `ShutDown` at its end, after at most one question more than
    there are answers. None of its loops is cut short by the bound on its turns: the prompt, the
    rounds of a fight and the turns at a menu do what they would do without one. -/
theorem session_ends (w : World) :
    ((∃ f, (session.exec w).1 = .error f) ↔ NotReady w) ∧
    (NotReady w → (session.exec w).2.console = w.console) ∧
    (¬ NotReady w → (session.exec w).1 = .ok () ∧ ShutDown w (session.exec w).2) ∧
    (∀ v, Repeats turn v ((repeatTurn turn).exec v)) ∧
    (∀ v, Repeats Battle.round v ((repeatTurn Battle.round).exec v)) ∧
    ∀ options v, Repeats (Menu.turn options) v ((repeatTurn (Menu.turn options)).exec v) := by
  have hprompt := repeats_repeatTurn usesAnswer_turn
  have hfights := repeats_repeatTurn usesAnswer_round
  have hmenus := fun options => repeats_repeatTurn (usesAnswer_menuTurn options)
  -- a session that is greeted takes turns until it is shut down
  rcases exec_greet w with ⟨hnot, f, v, hgreet, hconsole⟩ | ⟨hready, v, hgreet, hpaid, hcode⟩
  · have hsession : session.exec w = (.error f, v) := exec_bind_of_error hgreet
    rw [hsession]
    exact ⟨iff_of_true ⟨f, rfl⟩ hnot, fun _ => hconsole, fun hready => absurd hnot hready,
      hprompt, hfights, hmenus⟩
  · have hsession : session.exec w = (repeatTurn turn).exec v := exec_bind_of_ok hgreet
    obtain ⟨hok, hdown⟩ := shutDown_of_repeats (hprompt v) hcode
    rw [hsession, hok]
    refine ⟨iff_of_false ?_ hready, fun hnot => absurd hnot hready,
      fun _ => ⟨rfl, hdown.after hpaid⟩, hprompt, hfights, hmenus⟩
    rintro ⟨f, hf⟩
    cases hf

end Gamebook.Prompt

import Gamebook.Proofs.InGame
import Gamebook.Proofs.Loops

/-!
# Questions and answers

Every question uses up an answer. The one exception is a question that finds no answer left, and it
ends the step at once. `Pays` says this of the outcome of a step, together with what a session needs
to go on: events are only added, and a language that is a code stays one.

A fight and a menu wait for an answer in every turn, so the bound on their turns is never what ends
them.

## Key results

- `InGame.orderly`: every step of a game pays for its questions
- `usesAnswer_round`, `usesAnswer_menuTurn`: turns without a result use up an answer
-/

namespace Gamebook

/-- How many of some events are questions. -/
def Event.questions (events : List Event) : Nat := events.countP Event.isAsk

@[simp] theorem Event.questions_nil : questions [] = 0 := rfl

@[simp] theorem Event.questions_append (events events' : List Event) :
    questions (events ++ events') = questions events + questions events' :=
  List.countP_append

namespace Play

open Event

variable {α β : Type}

/-- The outcome `out` of a step that started in `w`: events were added, and for each question among
    them there is one answer fewer, or else the last question found no answer. A language that
    `isCode` stays one. -/
structure Pays (w : World) (out : Except Fault α × World) : Prop where
  code : Phrasebook.isCode w.phrasebook.language = true →
    Phrasebook.isCode out.2.phrasebook.language = true
  events : ∃ added, out.2.console.events.toList = w.console.events.toList ++ added ∧
    (questions added + out.2.console.answers.length = w.console.answers.length ∨
      questions added = w.console.answers.length + 1 ∧ out.2.console.answers = [] ∧
        out.1 = .error (.endOfInput true))

/-- The worlds before and after a step that `Pays` and has not run out of answers. -/
structure Paid (w v : World) : Prop where
  code : Phrasebook.isCode w.phrasebook.language = true →
    Phrasebook.isCode v.phrasebook.language = true
  events : ∃ added, v.console.events.toList = w.console.events.toList ++ added ∧
    questions added + v.console.answers.length = w.console.answers.length

/-- A step that `Pays` and does not fail with `endOfInput` has `Paid` for all its questions. -/
theorem Pays.paid {w v : World} {r : Except Fault α} (h : Pays w (r, v))
    (hr : r ≠ .error (.endOfInput true)) : Paid w v := by
  obtain ⟨hcode, added, hadded, hpaid | ⟨-, -, hnone⟩⟩ := h
  · exact ⟨hcode, added, hadded, hpaid⟩
  · exact absurd hnone hr

/-- A line that is shown costs no answer. -/
theorem Paid.shown {w v : World} (h : Paid w v) (text : String) :
    Paid w { v with console := v.console.log (.print text) } := by
  obtain ⟨hcode, added, hadded, hpaid⟩ := h
  refine ⟨hcode, added ++ [.print text], ?_, ?_⟩
  · rw [Console.events_log, hadded, List.append_assoc]
  · rw [questions_append]
    exact hpaid

/-- `Orderly p`: in whatever world `p` starts, its outcome `Pays`. -/
def Orderly (p : Play α) : Prop := ∀ w, Pays w (p.exec w)

/-- A step that is `Orderly` never adds answers. -/
theorem Orderly.answers_le {p : Play α} (h : Orderly p) (w : World) :
    (p.exec w).2.console.answers.length ≤ w.console.answers.length := by
  obtain ⟨added, -, hpaid | ⟨-, hnone, -⟩⟩ := (h w).events
  · omega
  · -- the last question found no answer, so none is left
    rw [hnone]
    exact Nat.zero_le _

namespace Orderly

/-! ## Ways to put steps together -/

/-- A change `f` to the world that leaves the console alone. -/
theorem modify {f : World → World} (hconsole : ∀ w, (f w).console = w.console)
    (hcode : ∀ w, Phrasebook.isCode w.phrasebook.language = true →
      Phrasebook.isCode (f w).phrasebook.language = true) :
    Orderly (MonadStateOf.modifyGet fun w => ((), f w) : Play Unit) := fun w =>
  { code := hcode w
    events := ⟨[], by rw [List.append_nil]; exact congrArg (·.events.toList) (hconsole w),
      .inl (by rw [questions_nil, Nat.zero_add]; exact congrArg (·.answers.length) (hconsole w))⟩ }

theorem pure (a : α) : Orderly (Pure.pure a) := fun _ =>
  { code := id, events := ⟨[], (List.append_nil _).symm, .inl (Nat.zero_add _)⟩ }

theorem fail (f : Fault) : Orderly (Play.fail f : Play α) := fun _ =>
  { code := id, events := ⟨[], (List.append_nil _).symm, .inl (Nat.zero_add _)⟩ }

/-- If `p` and all `f a` are `Orderly`, so is `p >>= f`: the questions of both are paid for. -/
theorem bind {p : Play α} {f : α → Play β} (hp : Orderly p) (hf : ∀ a, Orderly (f a)) :
    Orderly (p >>= f) := by
  intro w
  have hfirst := hp w
  rw [exec_bind]
  rcases hrun : p.exec w with ⟨e | a, v⟩ <;> rw [hrun] at hfirst
  · -- the first step fails, and what it owes is the outcome of both
    obtain ⟨hcode, added, hadded, hpaid⟩ := hfirst
    refine ⟨hcode, added, hadded, hpaid.imp_right ?_⟩
    rintro ⟨hquestions, hnone, hfault⟩
    cases hfault
    exact ⟨hquestions, hnone, rfl⟩
  · -- the first step has a result, so it has paid for all its questions
    obtain ⟨hcode, added, hadded, hpaid | ⟨-, -, hfault⟩⟩ := hfirst
    · obtain ⟨hcode', added', hadded', hpaid'⟩ := hf a v
      refine ⟨hcode' ∘ hcode, added ++ added', ?_, ?_⟩
      · rw [hadded', hadded, List.append_assoc]
      · rw [questions_append]
        dsimp only at hpaid ⊢
        refine hpaid'.imp (fun h => by omega) ?_
        rintro ⟨hquestions, hnone, hfault⟩
        exact ⟨by omega, hnone, hfault⟩
    · cases hfault

theorem traced {p : Play α} {steps : Fault → List Step} (h : Orderly p) :
    Orderly (p.traced steps) := by
  intro w
  rw [exec_traced]
  exact h w

theorem get : Orderly (MonadState.get : Play World) := fun _ =>
  { code := id, events := ⟨[], (List.append_nil _).symm, .inl (Nat.zero_add _)⟩ }

/-- An event that is no question costs nothing. -/
theorem emit {e : Event} (h : e.isAsk = false) : Orderly (Play.emit e) := fun w =>
  { code := id
    events := ⟨[e], by rw [exec_emit, Console.events_log], .inl (by
      have hnone : questions [e] = 0 := by simp [questions, h]
      rw [hnone, Nat.zero_add, exec_emit]
      rfl)⟩ }

theorem orThrow (r : Except Fault α) : Orderly (Play.orThrow r) := by
  cases r with
  | ok a => exact pure a
  | error f => exact fail f

theorem phrase (key : String) (args : List Template.Arg) : Orderly (Play.phrase key args) :=
  bind get fun _ => orThrow _

theorem tell (key : String) (args : List Template.Arg) : Orderly (Play.tell key args) :=
  bind (phrase key args) fun _ => emit rfl

theorem draw : Orderly Play.draw := fun w =>
  { code := id
    events := ⟨[.draw w.console.nextMove], Console.events_log _ _, .inl (Nat.zero_add _)⟩ }

theorem ensureFolder (name : String) : Orderly (Play.ensureFolder name) := by
  refine modify (fun w => ?_) fun w hcode => ?_
  · split <;> rfl
  · split <;> exact hcode

/-- `ask` uses up an answer, or finds none and fails. -/
theorem ask (prompt : String) : Orderly (Play.ask prompt) := by
  intro w
  have hone : questions [.ask prompt] = 1 := rfl
  rw [exec_ask]
  split
  · -- one question more than there are answers
    rename_i hnone
    refine ⟨id, [.ask prompt], Console.events_log _ _, .inr ⟨?_, hnone, rfl⟩⟩
    rw [hone, hnone]
    rfl
  · rename_i answer answers hanswers
    refine ⟨id, [.ask prompt], Console.events_log _ _, .inl ?_⟩
    rw [hone, hanswers, List.length_cons, Nat.add_comm]

theorem askPhrase (key : String) (args : List Template.Arg) : Orderly (Play.askPhrase key args) :=
  bind (phrase key args) fun _ => ask _

end Orderly

/-! ## Games -/

/-- Every step that is `InGame` is `Orderly`. -/
theorem InGame.orderly {p : Play α} (h : InGame p) : Orderly p := by
  induction h with
  | pure a => exact .pure a
  | fail f => exact .fail f
  | bind _ _ ihp ihf => exact .bind ihp ihf
  | traced _ ih => exact ih.traced
  | look _ _ ih => exact .bind .get ih
  | print text => exact .emit rfl
  | pause seconds => exact .emit rfl
  | tell key args => exact .tell key args
  | askPhrase key args => exact .askPhrase key args
  | draw => exact .draw
  | modifyGame f => exact .modify (fun _ => rfl) fun _ => id
  | ensureStories => exact .ensureFolder _

/-! ## Turns that use up an answer -/

/-- An `askPhrase` that gets an answer has used it up. -/
theorem answers_lt_of_askPhrase {key answer : String} {args : List Template.Arg} {w w' : World}
    (h : (askPhrase key args).exec w = (.ok answer, w')) :
    w'.console.answers.length < w.console.answers.length := by
  rw [exec_askPhrase] at h
  split at h
  · rw [exec_ask] at h
    -- there was an answer, and the rest of them is left
    split at h
    · cases h
    · rename_i hanswers
      obtain ⟨-, rfl⟩ := Prod.mk.inj h
      rw [hanswers]
      exact Nat.lt_succ_self _
  · cases h

/-- A turn that starts with `askPhrase` and goes on in an `Orderly` way uses up an answer. -/
private theorem usesAnswer_askPhrase {key : String} {args : List Template.Arg}
    {f : String → Play (Option α)} (hf : ∀ answer, Orderly (f answer)) :
    UsesAnswer (Play.askPhrase key args >>= f) := by
  intro w w' h
  obtain ⟨answer, v, hask, hrest⟩ := exists_of_exec_bind h
  have hle := (hf answer).answers_le v
  rw [hrest] at hle
  exact Nat.lt_of_le_of_lt hle (answers_lt_of_askPhrase hask)

/-- A turn uses up an answer even if an `Orderly` step comes before it. -/
private theorem usesAnswer_bind {p : Play β} {f : β → Play (Option α)} (hp : Orderly p)
    (hf : ∀ b, UsesAnswer (f b)) : UsesAnswer (p >>= f) := by
  intro w w' h
  obtain ⟨b, v, hfirst, hrest⟩ := exists_of_exec_bind h
  have hle := hp.answers_le w
  rw [hfirst] at hle
  exact Nat.lt_of_lt_of_le (hf b v w' hrest) hle

/-- A `Battle.round` without a result has used up an answer. -/
theorem usesAnswer_round : UsesAnswer Battle.round := by
  refine usesAnswer_bind .get fun w => ?_
  dsimp only
  split
  · -- the fight is over
    intro v w' h
    obtain ⟨_, _, -, h⟩ := exists_of_exec_bind h
    cases h
  · -- three lines are shown before the player is asked for a move
    refine usesAnswer_bind (.tell _ _) fun _ => usesAnswer_bind (.tell _ _) fun _ => ?_
    refine usesAnswer_bind (.tell _ _) fun _ => ?_
    exact usesAnswer_askPhrase fun _ => (OffDisk.resolve _).inGame.orderly

/-- A `Menu.turn` without a result has used up an answer. -/
theorem usesAnswer_menuTurn (options : List String) : UsesAnswer (Menu.turn options) :=
  usesAnswer_askPhrase fun _ => (InGame.fileRules.respond options _).orderly

end Play

end Gamebook

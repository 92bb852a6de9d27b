import Gamebook.World

/-!
# What the steps of a session do

One equation for each step that other steps are made of: its result, and the world after it. Proofs
about larger steps take them apart with `exec_bind` and these equations, and never look inside.

## Key results

- `exec_tell`, `exec_askPhrase`: showing a phrase and asking with one
- `exec_tryCatch`: a step that catches the mishaps of another one
- `Keeps.bind`, `Keeps.exists_of_bind`: steps that keep a property of the world
- `keeps_tell`, `keeps_askPhrase`: showing and asking leave the game alone
- `phrase_of_isCode`, `phrase_of_not_isCode`: a phrase is found exactly if the language is a code
- `exec_tell_of_isCode`, `exec_askPhrase_of_isCode`: showing and asking in a language that is a code
-/

namespace Gamebook

/-- `lookUp` finds a value, or that there is none, for everything that `isCode`. -/
theorem Phrasebook.lookUp_of_isCode {β : Type} (t : Table Wording β) {v : Json}
    (h : isCode v = true) : ∃ found, lookUp t v = .ok found := by
  cases v <;> simp_all [lookUp, isCode]

/-- `phrase` once `lookUp` has the pack, or no pack: it fills in what the pack holds for the key,
    and a key that it does not hold stands for itself. -/
theorem Phrasebook.phrase_of_lookUp {b : Phrasebook} {found : Option (Table Wording Json)}
    (h : lookUp b.packs b.language = .ok found) (key : String) (args : List Template.Arg) :
    b.phrase key args =
      .ok (((found.bind (Table.get? · key)).map (fillPhrase b.reach · args)).getD (.str key)) := by
  simp only [phrase, h, bind, Except.bind]
  -- the key is in the pack that was found, or it is not
  cases found.bind (Table.get? · key) <;> rfl

/-- If the language `isCode`, `phrase` has a result for every key. -/
theorem Phrasebook.phrase_of_isCode (b : Phrasebook) (key : String) (args : List Template.Arg)
    (h : isCode b.language = true) : ∃ v, b.phrase key args = .ok v := by
  obtain ⟨pack, hpack⟩ := lookUp_of_isCode b.packs h
  exact ⟨_, phrase_of_lookUp hpack key args⟩

/-- The text of `phrase`, as it is shown. It is empty if there is no phrase. -/
def Phrasebook.words (b : Phrasebook) (key : String) (args : List Template.Arg) : String :=
  match b.phrase key args with
  | .ok v => v.display.shown
  | .error _ => ""

/-- If the language is not one that `isCode`, `phrase` fails for every key. -/
theorem Phrasebook.phrase_of_not_isCode (b : Phrasebook) (key : String) (args : List Template.Arg)
    (h : isCode b.language = false) : b.phrase key args = .error (.notLanguage b.language) := by
  -- only lists and objects are no codes, and `lookUp` refuses just these
  have hlook : lookUp b.packs b.language = .error (.notLanguage b.language) := by
    cases hl : b.language <;> simp_all [lookUp, isCode]
  simp only [phrase, hlook, bind, Except.bind]

namespace Play

variable {α β : Type}

/-! ## The world, results and faults -/

@[simp] theorem exec_get (w : World) : (get : Play World).exec w = (.ok w, w) := rfl

@[simp] theorem exec_modify (f : World → World) (w : World) :
    (modify f : Play Unit).exec w = (.ok (), f w) := rfl

@[simp] theorem exec_orThrow (r : Except Fault α) (w : World) : (orThrow r).exec w = (r, w) := by
  cases r <;> rfl

/-- `exec` of `f <$> p`: only the result is changed. -/
theorem exec_map (f : α → β) (p : Play α) (w : World) :
    (f <$> p).exec w = ((p.exec w).1.map f, (p.exec w).2) := by
  rw [map_eq_pure_bind, exec_bind]
  rcases p.exec w with ⟨r | a, w'⟩ <;> rfl

/-- If `p` has a result, `p >>= f` goes on with `f` in the world that `p` has left. -/
theorem exec_bind_of_ok {p : Play α} {f : α → Play β} {w v : World} {a : α}
    (h : p.exec w = (.ok a, v)) : (p >>= f).exec w = (f a).exec v := by
  rw [exec_bind, h]

/-- If `p` fails, `p >>= f` does nothing else. -/
theorem exec_bind_of_error {p : Play α} {f : α → Play β} {w v : World} {e : Fault}
    (h : p.exec w = (.error e, v)) : (p >>= f).exec w = (.error e, v) := by
  rw [exec_bind, h]

/-- A result of `p >>= f` comes from a result of `p` and one of `f`. -/
theorem exists_of_exec_bind {p : Play α} {f : α → Play β} {w w' : World} {b : β}
    (h : (p >>= f).exec w = (.ok b, w')) :
    ∃ a v, p.exec w = (.ok a, v) ∧ (f a).exec v = (.ok b, w') := by
  rw [exec_bind] at h
  rcases hp : p.exec w with ⟨e | a, v⟩ <;> rw [hp] at h
  · cases h
  · exact ⟨a, v, rfl, h⟩

/-- A result of `f <$> p` comes from a result of `p`. -/
theorem exists_of_exec_map {f : α → β} {p : Play α} {w w' : World} {b : β}
    (h : (f <$> p).exec w = (.ok b, w')) : ∃ a, p.exec w = (.ok a, w') ∧ f a = b := by
  rw [map_eq_pure_bind] at h
  obtain ⟨a, v, hp, h⟩ := exists_of_exec_bind h
  cases h
  exact ⟨a, hp, rfl⟩

/-- If `exec` has a result, it is the pair of this result and the world. -/
theorem exec_of_toOption {p : Play α} {w : World} {a : α} (h : (p.exec w).1.toOption = some a) :
    p.exec w = (.ok a, (p.exec w).2) := by
  rcases hp : p.exec w with ⟨f | b, w'⟩ <;> rw [hp] at h <;> cases h
  rfl

/-- `tryCatch p h` goes on with `h` in the world in which `p` has failed. -/
theorem exec_tryCatch (p : Play α) (h : Mishap → Play α) (w : World) :
    (tryCatch p h).exec w =
      match p w with
      | (.ok a, w') => (.ok a, w')
      | (.error m, w') => (h m).exec w' := by
  simp only [exec, tryCatch, tryCatchThe, MonadExceptOf.tryCatch, ExceptT.tryCatch, ExceptT.run,
    ExceptT.mk, bind, StateT.bind, StateT.run]
  rcases p w with ⟨r | a, w'⟩ <;> rfl

/-- `exec` of a step that runs to a result. -/
theorem exec_of_ok {p : Play α} {w w' : World} {a : α} (h : p w = (.ok a, w')) :
    p.exec w = (.ok a, w') := by
  simp only [exec, ExceptT.run, StateT.run, h]
  rfl

/-- `exec` of a step that runs into a mishap. The trail of the mishap is dropped. -/
theorem exec_of_error {p : Play α} {w w' : World} {m : Mishap} (h : p w = (.error m, w')) :
    p.exec w = (.error m.fault, w') := by
  simp only [exec, ExceptT.run, StateT.run, h]
  rfl

/-- The converse of `exec_of_ok`: where there is a result, no trail was dropped. -/
theorem run_of_exec_ok {p : Play α} {w v : World} {a : α} (h : p.exec w = (.ok a, v)) :
    p w = (.ok a, v) := by
  rcases hrun : p w with ⟨m | b, u⟩
  · -- a mishap would be a fault in `exec`
    cases (exec_of_error hrun).symm.trans h
  · cases (exec_of_ok hrun).symm.trans h
    rfl

/-! ## The disk -/

theorem exec_writeText (path : String) (text : List Char) (w : World) :
    (writeText path text).exec w =
      match w.disk.write path (Text.Utf8.encode text) with
      | .ok disk => (.ok (), { w with disk })
      | .error failure => (.error (.disk failure path), w) := by
  simp only [writeText, exec_bind, exec_get]
  cases w.disk.write path (Text.Utf8.encode text) <;> rfl

theorem exec_listFolder (path : String) (w : World) :
    (listFolder path).exec w = ((w.disk.list path).mapError (.disk · path), w) := by
  simp only [listFolder, exec_bind, exec_get]
  cases w.disk.list path <;> rfl

theorem exec_ensureFolder (name : String) (w : World) :
    (ensureFolder name).exec w =
      (.ok (), if w.disk.has name then w else { w with disk := w.disk.makeFolder name }) := rfl

/-! ## Game and console -/

@[simp] theorem exec_modifyGame (f : Game → Game) (w : World) :
    (modifyGame f).exec w = (.ok (), { w with game := f w.game }) := rfl

@[simp] theorem exec_emit (e : Event) (w : World) :
    (emit e).exec w = (.ok (), { w with console := w.console.log e }) := rfl

@[simp] theorem exec_print (text : String) (w : World) :
    (print text).exec w = (.ok (), { w with console := w.console.log (.print text) }) := rfl

@[simp] theorem exec_draw (w : World) :
    draw.exec w = (.ok w.console.nextMove, { w with console := w.console.drawn }) := rfl

@[simp] theorem exec_phrase (key : String) (args : List Template.Arg) (w : World) :
    (phrase key args).exec w = (w.phrasebook.phrase key args, w) := by
  rw [phrase, exec_bind, exec_get]
  exact exec_orThrow _ _

/-- What an answer gives to the `ask` that gets it. -/
def reply : Answer → Except Fault String
  | .line text => .ok text
  | .endOfInput => .error (.endOfInput false)
  | .interrupt => .error .interrupted

/-- `ask` logs the question and takes the first of the answers to come, if there is one. -/
theorem exec_ask (prompt : String) (w : World) :
    (ask prompt).exec w =
      match w.console.answers with
      | [] => (.error (.endOfInput true), { w with console := w.console.log (.ask prompt) })
      | answer :: answers =>
        (reply answer, { w with console := { w.console.log (.ask prompt) with answers } }) := by
  simp only [ask, exec_bind, exec_emit, exec_get, Console.answers_log]
  cases w.console.answers with
  | nil => rfl
  | cons answer answers =>
    -- the answer is taken off the list before it is looked at
    simp only [exec_bind, exec_modify]
    cases answer <;> rfl

/-- `tell` logs what `phrase` gives. If there is no phrase nothing happens but the fault. -/
theorem exec_tell (key : String) (args : List Template.Arg) (w : World) :
    (tell key args).exec w =
      match w.phrasebook.phrase key args with
      | .ok v => (.ok (), { w with console := w.console.log (.print v.display.shown) })
      | .error f => (.error f, w) := by
  simp only [tell, exec_bind, exec_phrase]
  cases w.phrasebook.phrase key args <;> rfl

/-- `askPhrase` is `ask` with what `phrase` gives. -/
theorem exec_askPhrase (key : String) (args : List Template.Arg) (w : World) :
    (askPhrase key args).exec w =
      match w.phrasebook.phrase key args with
      | .ok v => (ask v.display.shown).exec w
      | .error f => (.error f, w) := by
  simp only [askPhrase, exec_bind, exec_phrase]
  cases w.phrasebook.phrase key args <;> rfl

section

variable {w : World} (hcode : Phrasebook.isCode w.phrasebook.language = true)

include hcode

/-- If the language `isCode`, `tell` logs the `words` for its key. -/
theorem exec_tell_of_isCode (key : String) (args : List Template.Arg) :
    (tell key args).exec w =
      (.ok (), { w with console := w.console.log (.print (w.phrasebook.words key args)) }) := by
  obtain ⟨v, hv⟩ := w.phrasebook.phrase_of_isCode key args hcode
  rw [exec_tell, Phrasebook.words, hv]

/-- If the language `isCode`, `askPhrase` is `ask` with the `words` for its key. -/
theorem exec_askPhrase_of_isCode (key : String) (args : List Template.Arg) :
    (askPhrase key args).exec w = (ask (w.phrasebook.words key args)).exec w := by
  obtain ⟨v, hv⟩ := w.phrasebook.phrase_of_isCode key args hcode
  rw [exec_askPhrase, Phrasebook.words, hv]

end

/-! ## Properties that are kept -/

/-- `p` keeps a property `I` of the world, whether it fails or not. -/
def Keeps (I : World → Prop) (p : Play α) : Prop := ∀ w, I w → I (p.exec w).2

namespace Keeps

variable {I : World → Prop} {p : Play α} {f : α → Play β}

theorem pure (a : α) : Keeps I (Pure.pure a : Play α) := fun _ h => h

theorem bind (hp : Keeps I p) (hf : ∀ a, Keeps I (f a)) : Keeps I (p >>= f) := by
  intro w hw
  have hfirst := hp w hw
  rw [exec_bind]
  -- the second step runs only if the first one has a result
  rcases hrun : p.exec w with ⟨e | a, v⟩ <;> rw [hrun] at hfirst
  · exact hfirst
  · exact hf a v hfirst

theorem look {f : World → Play β} (hf : ∀ w, Keeps I (f w)) : Keeps I (get >>= f) := by
  intro w hw
  rw [exec_bind, exec_get]
  exact hf w w hw

theorem traced {steps : Fault → List Step} (hp : Keeps I p) : Keeps I (p.traced steps) := by
  intro w hw
  rw [exec_traced]
  exact hp w hw

theorem tryCatch {g : Mishap → Play α} (hp : Keeps I p) (hg : ∀ m, Keeps I (g m)) :
    Keeps I (MonadExcept.tryCatch p g) := by
  intro w hw
  have hfirst := hp w hw
  rw [exec_tryCatch]
  rcases hrun : p w with ⟨m | a, v⟩
  · -- the mishap is dealt with in the world that it has left
    rw [exec_of_error hrun] at hfirst
    exact hg m v hfirst
  · rw [exec_of_ok hrun] at hfirst
    exact hfirst

/-- If `p` keeps `I` and `p >>= f` has a result, `f` has started in a world with `I`. -/
theorem exists_of_bind (hp : Keeps I p) {w v : World} {b : β} (hw : I w)
    (h : (p >>= f).exec w = (.ok b, v)) : ∃ a u, I u ∧ (f a).exec u = (.ok b, v) := by
  obtain ⟨a, u, hfirst, hrest⟩ := exists_of_exec_bind h
  have hu := hp w hw
  rw [hfirst] at hu
  exact ⟨a, u, hu, hrest⟩

end Keeps

section

variable {g : Game}

/-- `tell` leaves the game alone. -/
theorem keeps_tell (key : String) (args : List Template.Arg) :
    Keeps (·.game = g) (tell key args) := by
  intro w hw
  rw [exec_tell]
  cases w.phrasebook.phrase key args <;> exact hw

/-- `askPhrase` leaves the game alone. -/
theorem keeps_askPhrase (key : String) (args : List Template.Arg) :
    Keeps (·.game = g) (askPhrase key args) := by
  intro w hw
  rw [exec_askPhrase]
  cases w.phrasebook.phrase key args with
  | error f => exact hw
  | ok v =>
    dsimp only
    rw [exec_ask]
    cases w.console.answers <;> exact hw

end

end Play

end Gamebook

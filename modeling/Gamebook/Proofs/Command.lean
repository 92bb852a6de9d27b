import Gamebook.Command
import Gamebook.Proofs.Exec
import Gamebook.Proofs.Numeral
import Gamebook.Proofs.Text.Blank
import Gamebook.Proofs.Text.Lines
import Mathlib.Data.List.TakeDrop

/-!
# Commands that are read from lines

A command is read argument by argument. An argument ends at the first mark after which the rest can
be read. For all arguments but one that is simply the first mark: what cannot be read behind it can
be read behind no later one. Only the name before a delay may go on past a comma.

`TwoArguments` and `ThreeArguments` are arguments as they stand in a line, with the blanks between
them and whatever follows. They are what the readers read, and all that they read.

## Key results

- `cutAt_eq_none_iff`, `cutAt_of_shortest`, `cutAt_first`: where a text is cut
- `TwoArguments.text_injective`, `ThreeArguments.text_injective`: a line tells its arguments
- `TwoArguments.cutAt_text`, `TwoArguments.cutAt_eq_none`: two arguments, and what is none
- `lastPause_append`, `exists_delay_of_lastPause`: a delay, and what is none
- `pausedSay_append`, `plainSay_append`, `fightArguments_text`, `playerArguments_text`: the
  arguments of the commands
- `parse_say`, `parse_fight`, `parse_player`: the word that a line opens with tells its command
- `apply_of_readWhole`, `apply_add_of_readWhole`: numbers that are set and numbers that are added
- `exec_meet`, `exec_setPlayer`: what becomes of amounts
-/

namespace Gamebook

namespace Command

/-! ## Arguments -/

section

variable {β : Type} {mark : Char} {next : List Char → Option β}

/-- `cutAt` cuts an argument off at its mark if the rest can be read. Else the mark is part of
    it. -/
private theorem cutAt_append_mark {argument : List Char} (hmark : mark ∉ argument)
    (hline : '\n' ∉ argument) (hne : mark ≠ '\n') (rest : List Char) :
    cutAt mark next (argument ++ mark :: rest) =
      match next rest with
      | some b => some (argument, b)
      | none => (cutAt mark next rest).map fun cut => (argument ++ mark :: cut.1, cut.2) := by
  -- no character of the argument is the mark or ends the line, so all of them are passed over
  induction argument with
  | nil =>
    rw [List.nil_append, cutAt, if_pos rfl]
    cases next rest with
    | some b => rfl
    | none => simp [hne]
  | cons c argument ih =>
    simp only [List.mem_cons, not_or] at hmark hline
    rw [List.cons_append, cutAt, if_neg (Ne.symm hmark.1)]
    simp only [Ne.symm hline.1, if_false, ih hmark.2 hline.2]
    cases next rest with
    | some b => rfl
    | none => cases cutAt mark next rest <;> rfl

theorem cutAt_of_next {argument rest : List Char} {b : β} (hmark : mark ∉ argument)
    (hline : '\n' ∉ argument) (hne : mark ≠ '\n') (h : next rest = some b) :
    cutAt mark next (argument ++ mark :: rest) = some (argument, b) := by
  rw [cutAt_append_mark hmark hline hne, h]

/-- Without the mark `cutAt` has nothing to cut off. -/
theorem cutAt_of_not_mem {cs : List Char} (h : mark ∉ cs) : cutAt mark next cs = none := by
  induction cs with
  | nil => rfl
  | cons c cs ih =>
    simp only [List.mem_cons, not_or] at h
    rw [cutAt, if_neg (Ne.symm h.1)]
    simp only [ih h.2, Option.map_none, ite_self]

/-- `cutAt` finds nothing exactly if there is no mark after which the rest can be read. -/
theorem cutAt_eq_none_iff {cs : List Char} (hline : '\n' ∉ cs) :
    cutAt mark next cs = none ↔ ∀ before rest, cs = before ++ mark :: rest → next rest = none := by
  induction cs with
  | nil => simp [cutAt]
  | cons c cs ih =>
    simp only [List.mem_cons, not_or] at hline
    -- nothing is found at the first character, and nothing behind it
    have hstep : cutAt mark next (c :: cs) = none ↔
        (c = mark → next cs = none) ∧ cutAt mark next cs = none := by
      rw [cutAt]
      by_cases hc : c = mark
      · cases next cs <;> simp [hc, hc ▸ Ne.symm hline.1]
      · simp [hc, Ne.symm hline.1]
    rw [hstep, ih hline.2]
    constructor
    · rintro ⟨hfirst, hrest⟩ before rest heq
      rcases List.cons_eq_append_iff.1 heq with ⟨rfl, hcs⟩ | ⟨before, rfl, rfl⟩
      · obtain ⟨rfl, rfl⟩ := List.cons.inj hcs
        exact hfirst rfl
      · exact hrest before rest rfl
    · intro h
      refine ⟨fun hc => h [] cs (by rw [hc, List.nil_append]), fun before rest hcs => ?_⟩
      exact h (c :: before) rest (by rw [hcs, List.cons_append])

/-- `cutAt` cuts at the first mark after which the rest can be read. -/
theorem cutAt_of_shortest {before rest : List Char} {b : β} (hline : '\n' ∉ before)
    (hnext : next rest = some b)
    (hshort : ∀ before' rest', before ++ mark :: rest = before' ++ mark :: rest' →
      before'.length < before.length → next rest' = none) :
    cutAt mark next (before ++ mark :: rest) = some (before, b) := by
  induction before with
  | nil => rw [List.nil_append, cutAt, if_pos rfl, hnext]
  | cons c before ih =>
    simp only [List.mem_cons, not_or] at hline
    -- the first character is no mark, or one after which the rest cannot be read
    have hfirst : (if c = mark then next (before ++ mark :: rest) else none) = none := by
      split
      · rename_i hc
        exact hshort [] _ (by rw [hc]; rfl) (Nat.zero_lt_succ _)
      · rfl
    have htail := ih hline.2 fun before' rest' heq hlt =>
      hshort (c :: before') rest' (by rw [List.cons_append, heq, List.cons_append])
        (Nat.succ_lt_succ hlt)
    rw [List.cons_append, cutAt, hfirst]
    simp only [Ne.symm hline.1, if_false, htail, Option.map_some]

/-- `cutAt` cuts at the first mark of all if what cannot be read behind it can be read behind no
    later one. -/
theorem cutAt_first {before rest : List Char} (hmark : mark ∉ before) (hline : '\n' ∉ before)
    (hne : mark ≠ '\n') (hnone : next rest = none → cutAt mark next rest = none) :
    cutAt mark next (before ++ mark :: rest) = (next rest).map fun b => (before, b) := by
  rw [cutAt_append_mark hmark hline hne]
  cases hnext : next rest with
  | some b => rfl
  | none => rw [hnone hnext]; rfl

/-- Of two arguments of which the first is cut off, the second can be read behind no later mark if
    it cannot be behind the first one. -/
private theorem cutAt_cutAt_append {before rest : List Char} (hmark : mark ∉ before)
    (hline : '\n' ∉ before ∧ '\n' ∉ rest) (hne : mark ≠ '\n') (hblank : Text.isBlank mark = false) :
    cutAt mark (fun cs => cutAt mark next (Text.trimStart cs)) (before ++ mark :: rest) =
      (cutAt mark next (Text.trimStart rest)).map fun cut => (before, cut) := by
  have htrim {cs : List Char} (h : '\n' ∉ cs) : '\n' ∉ Text.trimStart cs :=
    fun hmem => h (Text.mem_of_mem_trimStart hmem)
  refine cutAt_first hmark hline.1 hne fun hnone => ?_
  rw [cutAt_eq_none_iff (htrim hline.2)] at hnone
  refine (cutAt_eq_none_iff hline.2).2 fun a later hrest => ?_
  have hlater : '\n' ∉ later := fun hmem => hline.2 (by simp [hrest, hmem])
  refine (cutAt_eq_none_iff (htrim hlater)).2 fun b last hlast => ?_
  -- the mark behind a later one is also a mark behind the first one
  obtain ⟨blanks, -, hblanks⟩ := Text.exists_blanks later
  refine hnone (Text.trimStart (a ++ mark :: (blanks ++ b))) last ?_
  rw [← Text.trimStart_append_mark hblank, hrest, hblanks, hlast]
  simp

end

/-! ## The last argument -/

/-- `lastArgument` finds one exactly if there is a closing parenthesis. -/
theorem lastArgument_eq_none_iff {cs : List Char} (hline : '\n' ∉ cs) :
    lastArgument cs = none ↔ ')' ∉ cs := by
  have htrim : '\n' ∉ Text.trimStart cs := fun hmem => hline (Text.mem_of_mem_trimStart hmem)
  rw [lastArgument, Option.map_eq_none_iff, cutAt_eq_none_iff htrim,
    ← Text.mem_trimStart_iff (by decide : Text.isBlank ')' = false)]
  constructor
  · intro h hmem
    obtain ⟨before, rest, heq⟩ := List.append_of_mem hmem
    exact absurd (h before rest heq) (Option.some_ne_none rest)
  · intro h before rest heq
    exact absurd (by simp [heq]) h

/-- `lastArgument` skips the blanks and goes up to the first closing parenthesis. -/
theorem lastArgument_append {gap last : List Char} (hgap : Text.AllBlank gap)
    (htight : Text.IsTight last) (hclose : ')' ∉ last) (hline : '\n' ∉ last) (rest : List Char) :
    lastArgument (gap ++ (last ++ ')' :: rest)) = some last := by
  have htrim : Text.trimStart (gap ++ (last ++ ')' :: rest)) = last ++ ')' :: rest :=
    Text.trimStart_append hgap ((Text.isTight_append_mark (by decide) rest).2 htight)
  rw [lastArgument, htrim, cutAt_of_next hclose hline (by decide) rfl]
  rfl

/-- An argument before the `lastArgument` is cut off at its comma, if it is cut off at all. -/
private theorem cutAt_lastArgument_append {before rest : List Char} (hcomma : ',' ∉ before)
    (hline : '\n' ∉ before ∧ '\n' ∉ rest) :
    cutAt ',' lastArgument (before ++ ',' :: rest) =
      (lastArgument rest).map fun last => (before, last) := by
  refine cutAt_first hcomma hline.1 (by decide) fun hnone => ?_
  rw [lastArgument_eq_none_iff hline.2] at hnone
  -- behind a later comma there is no parenthesis either
  refine (cutAt_eq_none_iff hline.2).2 fun a later hrest => ?_
  have hlater : '\n' ∉ later := fun hmem => hline.2 (by simp [hrest, hmem])
  exact (lastArgument_eq_none_iff hlater).2 fun hmem => hnone (by simp [hrest, hmem])

/-! ## Two and three arguments -/

/-- Two arguments as they stand in a line: the first one up to its comma, the last one behind some
    blanks and up to its parenthesis, and the rest of the line. -/
@[ext] structure TwoArguments where
  first : List Char
  gap : List Char
  last : List Char
  rest : List Char
  first_comma : ',' ∉ first
  gap_blank : Text.AllBlank gap
  last_tight : Text.IsTight last
  last_close : ')' ∉ last

namespace TwoArguments

/-- The arguments in a line. -/
def text (p : TwoArguments) : List Char :=
  p.first ++ ',' :: (p.gap ++ (p.last ++ ')' :: p.rest))

/-- A line tells which `TwoArguments` stand in it. -/
theorem text_injective : Function.Injective text := by
  intro p q h
  -- from left to right: each part ends at its mark, and the gap where the blanks end
  obtain ⟨hfirst, hbehind⟩ := Text.append_mark_inj p.first_comma q.first_comma h
  obtain ⟨hgap, htail⟩ := Text.append_tight_inj p.gap_blank q.gap_blank
    ((Text.isTight_append_mark (by decide) _).2 p.last_tight)
    ((Text.isTight_append_mark (by decide) _).2 q.last_tight) hbehind
  obtain ⟨hlast, hrest⟩ := Text.append_mark_inj p.last_close q.last_close htail
  exact TwoArguments.ext hfirst hgap hlast hrest

/-- The arguments in a line are read. -/
theorem cutAt_text (p : TwoArguments) (hline : '\n' ∉ p.text) :
    cutAt ',' lastArgument p.text = some (p.first, p.last) := by
  simp only [text, List.mem_append, List.mem_cons, not_or] at hline
  exact cutAt_of_next p.first_comma hline.1 (by decide)
    (lastArgument_append p.gap_blank p.last_tight p.last_close hline.2.2.2.1 p.rest)

/-- What is not the `text` of two arguments cannot be read as such. -/
theorem cutAt_eq_none {cs : List Char} (hline : '\n' ∉ cs) (h : ∀ p : TwoArguments, p.text ≠ cs) :
    cutAt ',' lastArgument cs = none := by
  by_cases hcomma : ',' ∈ cs
  · obtain ⟨first, behind, rfl, hfirst⟩ := List.eq_append_cons_of_mem hcomma
    simp only [List.mem_append, List.mem_cons, not_or] at hline
    have hclose : ')' ∉ behind := by
      intro hmem
      -- else there are two arguments: the last one ends at the first parenthesis
      obtain ⟨gap, hgap, hbehind⟩ := Text.exists_blanks behind
      have htrim : ')' ∈ Text.trimStart behind :=
        (Text.mem_trimStart_iff (by decide)).2 hmem
      obtain ⟨last, rest, hlast, hnot⟩ := List.eq_append_cons_of_mem htrim
      have htight : Text.IsTight last :=
        (Text.isTight_append_mark (by decide) rest).1 (hlast ▸ Text.isTight_trimStart behind)
      refine h ⟨first, gap, last, rest, hfirst, hgap, htight, hnot⟩ ?_
      rw [text, ← hlast, ← hbehind]
    rw [cutAt_lastArgument_append hfirst ⟨hline.1, hline.2.2⟩,
      (lastArgument_eq_none_iff hline.2.2).2 hclose]
    rfl
  · exact cutAt_of_not_mem hcomma

end TwoArguments

/-- Three arguments as they stand in a line: the first one up to its comma, and the others behind
    some blanks. -/
@[ext] structure ThreeArguments where
  first : List Char
  gap : List Char
  others : TwoArguments
  first_comma : ',' ∉ first
  gap_blank : Text.AllBlank gap
  others_tight : Text.IsTight others.first

namespace ThreeArguments

/-- The arguments in a line. -/
def text (p : ThreeArguments) : List Char := p.first ++ ',' :: (p.gap ++ p.others.text)

private theorem isTight_others (p : ThreeArguments) : Text.IsTight p.others.text :=
  (Text.isTight_append_mark (by decide) _).2 p.others_tight

/-- A line tells which `ThreeArguments` stand in it. -/
theorem text_injective : Function.Injective text := by
  intro p q h
  obtain ⟨hfirst, hbehind⟩ := Text.append_mark_inj p.first_comma q.first_comma h
  obtain ⟨hgap, htail⟩ :=
    Text.append_tight_inj p.gap_blank q.gap_blank p.isTight_others q.isTight_others hbehind
  exact ThreeArguments.ext hfirst hgap (TwoArguments.text_injective htail)

end ThreeArguments

/-! ## Delays -/

/-- A delay in seconds as it stands in a line: digits of any script, perhaps with a point and more
    of them behind it. -/
structure Delay where
  whole : List Char
  places : List Char := []
  whole_ne_nil : whole ≠ []
  whole_digits : ∀ c ∈ whole, Text.isDigit c = true
  places_digits : ∀ c ∈ places, Text.isDigit c = true

namespace Delay

/-- The places of a delay, with the point before them if there are any. -/
def withPoint : List Char → List Char
  | [] => []
  | p :: ps => '.' :: p :: ps

/-- A delay as an argument. -/
def text (d : Delay) : List Char := d.whole ++ withPoint d.places

/-- The length of a delay. -/
def seconds (d : Delay) : Binary64 :=
  .ofDecimal false (Text.numeral (d.whole ++ d.places) 0) (-(d.places.length : Int))

end Delay

/-- A row of digits ends at the first character that is none. -/
private theorem span_isDigit {row : List Char} (hrow : ∀ c ∈ row, Text.isDigit c = true) {c : Char}
    (hc : Text.isDigit c = false) (rest : List Char) :
    (row ++ c :: rest).span Text.isDigit = (row, c :: rest) := by
  rw [List.span_eq_takeWhile_dropWhile, List.takeWhile_append_of_pos hrow,
    List.dropWhile_append_of_pos hrow]
  simp [hc]

/-- `takePlaces` reads the places of a delay, and so it does if there are none. -/
theorem takePlaces_append {places : List Char} (h : ∀ c ∈ places, Text.isDigit c = true)
    (rest : List Char) :
    takePlaces (Delay.withPoint places ++ ')' :: rest) = some (places, ')' :: rest) := by
  cases places with
  | nil => rfl
  | cons p ps =>
    have hspan : ((p :: ps) ++ ')' :: rest).span Text.isDigit = (p :: ps, ')' :: rest) :=
      span_isDigit h (by decide) rest
    rw [Delay.withPoint, List.cons_append, takePlaces, hspan]

/-- `lastPause` reads a `Delay` as what it is. -/
theorem lastPause_append {gap : List Char} (hgap : Text.AllBlank gap) (d : Delay)
    (rest : List Char) : lastPause (gap ++ (d.text ++ ')' :: rest)) = some d.seconds := by
  have htight : Text.IsTight (d.text ++ ')' :: rest) := by
    refine (Text.isTight_append_mark (by decide) rest).2 ?_
    obtain ⟨e, es, hwhole⟩ := List.exists_cons_of_ne_nil d.whole_ne_nil
    rw [Delay.text, hwhole]
    exact Text.isBlank_of_isDigit (d.whole_digits e (hwhole ▸ List.mem_cons_self))
  -- behind the digits stands a point or the parenthesis
  obtain ⟨c, tail, htail, hc⟩ : ∃ c tail,
      Delay.withPoint d.places ++ ')' :: rest = c :: tail ∧ Text.isDigit c = false := by
    cases d.places with
    | nil => exact ⟨')', rest, rfl, by decide⟩
    | cons p ps => exact ⟨'.', p :: ps ++ ')' :: rest, rfl, by decide⟩
  have hplaces := takePlaces_append d.places_digits rest
  rw [lastPause, Text.trimStart_append hgap htight, Delay.text, List.append_assoc]
  rw [htail] at hplaces ⊢
  rw [span_isDigit d.whole_digits hc]
  obtain ⟨e, es, hwhole⟩ := List.exists_cons_of_ne_nil d.whole_ne_nil
  simp only [hwhole, hplaces, bind, Option.bind, Delay.seconds]
  rfl

/-- What `takePlaces` finds behind a point are digits, and without a point it finds none. -/
private theorem takePlaces_eq_some {cs places rest : List Char}
    (h : takePlaces cs = some (places, rest)) :
    (∀ c ∈ places, Text.isDigit c = true) ∧ cs = Delay.withPoint places ++ rest := by
  unfold takePlaces at h
  -- there is a point, or there are no places
  split at h
  · rename_i behind
    rw [List.span_eq_takeWhile_dropWhile] at h
    split at h
    · cases h
    · rename_i row tail hne hspan
      cases h
      obtain ⟨rfl, rfl⟩ := Prod.mk.inj hspan
      refine ⟨fun c hc => List.mem_takeWhile_imp hc, ?_⟩
      have hpoint : Delay.withPoint (behind.takeWhile Text.isDigit) =
          '.' :: behind.takeWhile Text.isDigit := by
        obtain ⟨p, ps, hps⟩ := List.exists_cons_of_ne_nil hne
        rw [hps, Delay.withPoint]
      rw [hpoint, List.cons_append, List.takeWhile_append_dropWhile]
  · cases h
    exact ⟨by simp, rfl⟩

/-- What `lastPause` reads is a `Delay`, behind some blanks and before a closing parenthesis. -/
theorem exists_delay_of_lastPause {cs : List Char} {seconds : Binary64}
    (h : lastPause cs = some seconds) :
    ∃ (gap : List Char) (d : Delay) (rest : List Char), Text.AllBlank gap ∧
      cs = gap ++ (d.text ++ ')' :: rest) := by
  obtain ⟨gap, hgap, hcs⟩ := Text.exists_blanks cs
  rw [lastPause, List.span_eq_takeWhile_dropWhile] at h
  split at h
  · cases h
  · rename_i whole behind hne hspan
    obtain ⟨rfl, rfl⟩ := Prod.mk.inj hspan
    -- behind the whole part come the places, and behind these the parenthesis
    obtain ⟨⟨places, tail⟩, htake, h⟩ := Option.bind_eq_some_iff.1 h
    obtain ⟨hplaces, hbehind⟩ := takePlaces_eq_some htake
    dsimp only at h
    split at h
    · rename_i hclose
      cases tail with
      | nil => cases hclose
      | cons c rest =>
        obtain rfl : c = ')' := by simpa using hclose
        refine ⟨gap, ⟨_, places, hne, fun c hc => List.mem_takeWhile_imp hc, hplaces⟩, rest, hgap,
          ?_⟩
        rw [Delay.text, List.append_assoc, ← hbehind, List.takeWhile_append_dropWhile]
        exact hcs
    · cases h

/-! ## Commands -/

section

variable {first behind : List Char} (hcomma : ',' ∉ first)
  (hline : '\n' ∉ first ∧ '\n' ∉ behind)

include hcomma hline

/-- What a speech says ends at the first comma, whether a delay follows or not. -/
theorem pausedSay_append :
    pausedSay (first ++ ',' :: behind) =
      (cutAt ',' lastPause (Text.trimStart behind)).map fun cut =>
        .say (String.ofList first) (String.ofList cut.1) cut.2 := by
  rw [pausedSay, cutAt_cutAt_append hcomma hline (by decide) (by decide)]
  cases cutAt ',' lastPause (Text.trimStart behind) <;> rfl

/-- `plainSay` has the text up to the first comma, and the last argument is the name. -/
theorem plainSay_append :
    plainSay (first ++ ',' :: behind) =
      (lastArgument behind).map fun name =>
        .say (String.ofList first) (String.ofList name) (.zero false) := by
  rw [plainSay, cutAt_lastArgument_append hcomma hline]
  cases lastArgument behind <;> rfl

/-- The points of a foe end at the first comma. -/
private theorem fightArguments_append :
    fightArguments (first ++ ',' :: behind) =
      (cutAt ',' lastArgument (Text.trimStart behind)).map fun cut =>
        .fight (String.ofList first) (String.ofList cut.1) (String.ofList cut.2) := by
  rw [fightArguments, cutAt_cutAt_append hcomma hline (by decide) (by decide)]
  cases cutAt ',' lastArgument (Text.trimStart behind) <;> rfl

end

/-- Without a comma a line is no speech. -/
theorem say_of_not_mem {cs : List Char} (h : ',' ∉ cs) :
    (pausedSay cs).or (plainSay cs) = none := by
  rw [pausedSay, plainSay, cutAt_of_not_mem h, cutAt_of_not_mem h]
  rfl

/-- `playerArguments` reads two arguments as they stand in a line. -/
theorem playerArguments_text (p : TwoArguments) (hline : '\n' ∉ p.text) :
    playerArguments p.text = some (.player (String.ofList p.first) (String.ofList p.last)) := by
  rw [playerArguments, p.cutAt_text hline]
  rfl

theorem playerArguments_eq_none {cs : List Char} (hline : '\n' ∉ cs)
    (h : ∀ p : TwoArguments, p.text ≠ cs) : playerArguments cs = none := by
  rw [playerArguments, TwoArguments.cutAt_eq_none hline h]
  rfl

/-- `fightArguments` reads three arguments as they stand in a line. -/
theorem fightArguments_text (p : ThreeArguments) (hline : '\n' ∉ p.text) :
    fightArguments p.text =
      some (.fight (String.ofList p.first) (String.ofList p.others.first)
        (String.ofList p.others.last)) := by
  simp only [ThreeArguments.text, List.mem_append, List.mem_cons, not_or] at hline
  rw [ThreeArguments.text, fightArguments_append p.first_comma ⟨hline.1, by simp [hline.2.2]⟩,
    Text.trimStart_append p.gap_blank p.isTight_others, p.others.cutAt_text hline.2.2.2]
  rfl

/-- `fightArguments` reads nothing else than three arguments. -/
theorem fightArguments_eq_none {cs : List Char} (hline : '\n' ∉ cs)
    (h : ∀ p : ThreeArguments, p.text ≠ cs) : fightArguments cs = none := by
  by_cases hcomma : ',' ∈ cs
  · obtain ⟨first, behind, rfl, hfirst⟩ := List.eq_append_cons_of_mem hcomma
    simp only [List.mem_append, List.mem_cons, not_or] at hline
    have htrim : '\n' ∉ Text.trimStart behind :=
      fun hmem => hline.2.2 (Text.mem_of_mem_trimStart hmem)
    -- two arguments behind the first one would make three
    have hothers : ∀ q : TwoArguments, q.text ≠ Text.trimStart behind := by
      intro q hq
      obtain ⟨gap, hgap, hbehind⟩ := Text.exists_blanks behind
      have htight : Text.IsTight q.first :=
        (Text.isTight_append_mark (by decide) _).1 (hq ▸ Text.isTight_trimStart behind)
      refine h ⟨first, gap, q, hfirst, hgap, htight⟩ ?_
      rw [ThreeArguments.text, hq, ← hbehind]
    rw [fightArguments_append hfirst ⟨hline.1, hline.2.2⟩,
      TwoArguments.cutAt_eq_none htrim hothers]
    rfl
  · rw [fightArguments, cutAt_of_not_mem hcomma]
    rfl

/-! ## Lines -/

section

variable {line cs : List Char} (htrim : Text.trim line = line)

include htrim

/-- A line that opens with `say(` is tried as a speech with a delay first. -/
theorem parse_say (h : line = "say(".toList ++ cs) :
    parse line = (pausedSay cs).or (plainSay cs) := by
  rw [parse, htrim, h, Text.isPrefixOf?_append]

/-- A line that opens with `fight(` is tried as nothing but a fight. -/
theorem parse_fight (h : line = "fight(".toList ++ cs) : parse line = fightArguments cs := by
  have hsay : "say(".toList.isPrefixOf? ("fight(".toList ++ cs) = none := rfl
  rw [parse, htrim, h, hsay, Text.isPrefixOf?_append]

/-- A line that opens with `player(` is tried as nothing but a change to the player. -/
theorem parse_player (h : line = "player(".toList ++ cs) : parse line = playerArguments cs := by
  have hsay : "say(".toList.isPrefixOf? ("player(".toList ++ cs) = none := rfl
  have hfight : "fight(".toList.isPrefixOf? ("player(".toList ++ cs) = none := rfl
  rw [parse, htrim, h, hsay, hfight, Text.isPrefixOf?_append]

end

end Command

/-! ## Amounts -/

/-- `apply` sets a text that is read as a number, since it cannot start with `add`. -/
theorem Amount.apply_of_readWhole {cs : List Char} {n : Int} (h : readWhole cs = .ok n)
    (old : Int) : apply old (.text (String.ofList cs)) = .ok n := by
  cases hstart : ['a', 'd', 'd', ' '].isPrefixOf? cs with
  | none => simp only [apply, String.toList_ofList, hstart, h]
  | some rest =>
    -- no number starts with a letter
    rw [← List.append_eq_of_isPrefixOf?_eq_some hstart] at h
    cases h

/-- `apply` adds a number behind `add`. -/
theorem Amount.apply_add_of_readWhole {cs : List Char} {n : Int} (h : readWhole cs = .ok n)
    (old : Int) :
    apply old (.text (String.ofList (['a', 'd', 'd', ' '] ++ cs))) = .ok (old + n) := by
  simp only [apply, String.toList_ofList, Text.isPrefixOf?_append, h]
  rfl

/-- `meet` brings a foe in as far as the amounts can be read. -/
theorem Battle.exec_meet (hp damage : Amount) (name : String) (w : World) :
    (meet hp damage name).exec w =
      match hp.read with
      | .error f => (.error f, { w with game := { w.game with inFight := true } })
      | .ok points =>
        match damage.read with
        | .error f =>
          (.error f, { w with game := { w.game with
            inFight := true, foe := { w.game.foe with hp := points } } })
        | .ok strength =>
          (.ok (), { w with game := { w.game with
            inFight := true, foe := { name, hp := points, damage := strength } } }) := by
  simp only [meet, Play.exec_bind, Play.exec_modifyGame, Play.exec_traced, Play.exec_orThrow]
  -- the points are read before the damage, and each is kept as soon as it is read
  cases hp.read with
  | error f => rfl
  | ok points => cases damage.read <;> rfl

/-- A `fight` depends on its amounts only by the numbers that they are read as. -/
theorem Battle.exec_fight_congr {hp hp' damage damage' : Amount} (hhp : hp.read = hp'.read)
    (hdamage : damage.read = damage'.read) (name : String) (w : World) :
    (fight hp damage name).exec w = (fight hp' damage' name).exec w := by
  rw [fight, fight, Play.exec_bind, Play.exec_bind, exec_meet, exec_meet, hhp, hdamage]

/-- `setPlayer` changes the player as far as the amounts can be read. -/
theorem exec_setPlayer (hp damage : Amount) (w : World) :
    (setPlayer hp damage).exec w =
      match hp.apply w.game.player.hp with
      | .error f => (.error f, w)
      | .ok points =>
        match damage.apply w.game.player.damage with
        | .error f =>
          (.error f,
            { w with game := { w.game with player := { w.game.player with hp := points } } })
        | .ok strength =>
          (.ok (), { w with game := { w.game with
            player := { hp := points, damage := strength } } }) := by
  simp only [setPlayer, Play.exec_bind, Play.exec_get, Play.exec_modifyGame, Play.exec_traced,
    Play.exec_orThrow]
  -- the points are kept even where the damage cannot be read
  cases hp.apply w.game.player.hp with
  | error f => rfl
  | ok points =>
    dsimp only
    cases damage.apply w.game.player.damage <;> rfl

end Gamebook

import Gamebook.Proofs.Grammar

/-!
# Spaces around the player's amounts

A line that changes the player has two amounts, each of them a number or `add` and a number. Spaces
around them are dealt with in three places: those behind a number are skipped where the number is
read, those in front of the second amount where the line is cut, and those in front of the first one
again where its number is read. So they do not matter, with one exception. Before the first amount
nothing is skipped when the word `add` is looked for. A space in front of it hides the word, and the
amount is then no number.

## Key results

- `Typed.readWhole_padded`: a number is read whatever the padding around it
- `apply_padded`, `apply_padded_add`: what becomes of an amount with padding around it
- `exec_run_spacedLine`, `exec_run_spacedLine_of_hidden`: what a line with spaces does
- `spaces_around_amounts_matter_iff`: where spaces matter, and what happens there
-/

namespace Gamebook

/-! ## Numbers as they are typed -/

namespace Whole

/-- A whole number as it is typed: a sign or none, and a row of digits of any script with single
    underscores between them, of which there are not too many. -/
structure Typed where
  sign : List Char
  row : List Char
  sign_cases : sign = [] ∨ sign = ['+'] ∨ sign = ['-']
  row_digits : ∀ c ∈ row, Text.isDigit c = true ∨ c = '_'
  row_spaced : wellSpaced false row = true
  row_short : (row.filter (· != '_')).length ≤ maxDigits

namespace Typed

/-- The text of a number. -/
def text (n : Typed) : List Char := n.sign ++ n.row

/-- The number that was meant. -/
def value (n : Typed) : Int :=
  if n.sign = ['-'] then -Text.numeral (n.row.filter (· != '_')) 0
  else Text.numeral (n.row.filter (· != '_')) 0

/-- A number starts with a digit behind its sign. -/
private theorem exists_row_eq_cons (n : Typed) :
    ∃ d ds, n.row = d :: ds ∧ Text.isDigit d = true := by
  have hspaced := n.row_spaced
  -- neither an empty row nor a leading underscore is well spaced
  cases hrow : n.row with
  | nil =>
    rw [hrow] at hspaced
    cases hspaced
  | cons d ds =>
    refine ⟨d, ds, rfl, ?_⟩
    rcases n.row_digits d (hrow ▸ List.mem_cons_self) with hd | rfl
    · exact hd
    · rw [hrow] at hspaced
      cases hspaced

/-- A number is made of a sign, digits and underscores. -/
private theorem mem_text {n : Typed} {c : Char} (h : c ∈ n.text) :
    Text.isDigit c = true ∨ c ∈ ['_', '+', '-'] := by
  rcases List.mem_append.1 h with h | h
  · rcases n.sign_cases with hsign | hsign | hsign <;> rw [hsign] at h
    · cases h
    · exact .inr (by simp [List.mem_singleton.1 h])
    · exact .inr (by simp [List.mem_singleton.1 h])
  · rcases n.row_digits c h with hc | rfl
    · exact .inl hc
    · exact .inr (by decide)

/-- A mark that is in no number. -/
theorem not_mem_text {c : Char} (hdigit : Text.isDigit c = false) (hmark : c ∉ ['_', '+', '-'])
    (n : Typed) : c ∉ n.text := by
  intro h
  rcases mem_text h with h | h
  · rw [h] at hdigit
    cases hdigit
  · exact hmark h

/-- A number does not start with a blank. -/
private theorem exists_text_eq_cons (n : Typed) :
    ∃ c cs, n.text = c :: cs ∧ Text.isBlank c = false := by
  obtain ⟨d, ds, hrow, hd⟩ := n.exists_row_eq_cons
  rcases n.sign_cases with hsign | hsign | hsign
  · exact ⟨d, ds, by rw [text, hsign, hrow, List.nil_append], Text.isBlank_of_isDigit hd⟩
  · exact ⟨'+', n.row, by rw [text, hsign, List.singleton_append], by decide⟩
  · exact ⟨'-', n.row, by rw [text, hsign, List.singleton_append], by decide⟩

/-- `read` gives the number that was meant. -/
private theorem read_text (n : Typed) : read n.text = .ok n.value := by
  obtain ⟨d, ds, hrow, hd⟩ := n.exists_row_eq_cons
  -- a sign is taken if there is one, and padding is not there
  have hsign : takeSign (n.text.dropWhile isPadding) = (decide (n.sign = ['-']), n.row) := by
    rcases n.sign_cases with hnone | hplus | hminus
    · -- the first digit is neither padding nor a sign
      have hpad : isPadding d = false := by simp [isPadding, Text.isBlank_of_isDigit hd]
      rw [text, hnone, List.nil_append, hrow, List.dropWhile_cons_of_neg (by simp [hpad]),
        takeSign_of_isDigit hd]
      rfl
    · rw [text, hplus]
      rfl
    · rw [text, hminus]
      rfl
  have hdigits : ∀ c ∈ n.row, (Text.isDigit c || c == '_') = true := fun c hc => by
    simpa using n.row_digits c hc
  rw [read_of_row hsign hdigits n.row_spaced, if_neg (Nat.not_lt.2 n.row_short), value]
  simp only [decide_eq_true_eq]

/-- `readWhole` gives the number that was meant, also with padding around it. -/
theorem readWhole_padded (n : Typed) {left right : List Char}
    (hleft : ∀ c ∈ left, isPadding c = true) (hright : ∀ c ∈ right, isPadding c = true) :
    readWhole (left ++ n.text ++ right) = .ok n.value := by
  rw [readWhole, Whole.read_padded hleft hright, n.read_text]

end Typed

end Whole

/-! ## Amounts as they are typed -/

/-- An amount as it is typed in a line that changes the player: a number, or `add` and a number. -/
inductive TypedAmount where
  | set (n : Whole.Typed)
  | add (n : Whole.Typed)

namespace TypedAmount

/-- The text of an amount. -/
def text : TypedAmount → List Char
  | .set n => n.text
  | .add n => ['a', 'd', 'd', ' '] ++ n.text

/-- Whether an amount is one to add. -/
def adds : TypedAmount → Bool
  | .set _ => false
  | .add _ => true

/-- What an amount makes of an old value. -/
def result (old : Int) : TypedAmount → Int
  | .set n => n.value
  | .add n => old + n.value

/-- An amount does not start with a blank. -/
private theorem exists_text_eq_cons (a : TypedAmount) :
    ∃ c cs, a.text = c :: cs ∧ Text.isBlank c = false := by
  cases a with
  | set n => exact n.exists_text_eq_cons
  | add n => exact ⟨'a', ['d', 'd', ' '] ++ n.text, rfl, by decide⟩

/-- No mark of a line is in an amount. -/
theorem not_mem_text {c : Char} (hc : c ∈ [',', ')', '\n']) (a : TypedAmount) : c ∉ a.text := by
  simp only [List.mem_cons, List.not_mem_nil, or_false] at hc
  have hnumber (n : Whole.Typed) : c ∉ n.text := by
    rcases hc with rfl | rfl | rfl <;> exact n.not_mem_text (by decide) (by decide)
  cases a with
  | set n => exact hnumber n
  | add n =>
    intro hmem
    rcases List.mem_append.1 hmem with hmem | hmem
    · rcases hc with rfl | rfl | rfl <;> exact absurd hmem (by decide)
    · exact hnumber n hmem

section

variable {left right : List Char} (hleft : ∀ c ∈ left, Whole.isPadding c = true)
  (hright : ∀ c ∈ right, Whole.isPadding c = true)

include hleft hright

/-- Padding around an amount does not matter to `apply`, but for padding in front of one to add. -/
theorem apply_padded (a : TypedAmount) (hshown : left = [] ∨ a.adds = false) (old : Int) :
    Amount.apply old (.text (String.ofList (left ++ a.text ++ right))) = .ok (a.result old) := by
  cases a with
  | set n => exact Amount.apply_of_readWhole (n.readWhole_padded hleft hright) old
  | add n =>
    obtain rfl : left = [] := hshown.resolve_right fun h => by cases h
    exact Amount.apply_add_of_readWhole (n.readWhole_padded hleft hright) old

/-- An amount to add with padding in front is no number for `apply`. -/
theorem apply_padded_add (hne : left ≠ []) (n : Whole.Typed) (old : Int) :
    Amount.apply old (.text (String.ofList (left ++ (add n).text ++ right))) =
      .error (.notNumber (String.ofList (left ++ (add n).text ++ right))) := by
  -- the first character is padding, so the word `add` is not found
  have hstart : ['a', 'd', 'd', ' '].isPrefixOf? (left ++ (add n).text ++ right) = none := by
    obtain ⟨c, left, rfl⟩ := List.exists_cons_of_ne_nil hne
    have hc : 'a' ≠ c := by
      rintro rfl
      exact absurd (hleft 'a' List.mem_cons_self) (by decide)
    rw [List.cons_append, List.cons_append]
    exact Text.isPrefixOf?_cons_of_ne hc _ _
  -- and then the whole text has to be a number
  have hread : Whole.read (add n).text = .error .malformed := rfl
  simp only [Amount.apply, String.toList_ofList, hstart, readWhole,
    Whole.read_padded hleft hright, hread]

end

end TypedAmount

/-! ## Lines -/

namespace Command

open Play

/-- A row of spaces. -/
def spaces (n : Nat) : List Char := List.replicate n ' '

private theorem mem_spaces {n : Nat} {c : Char} (h : c ∈ spaces n) :
    c = ' ' := List.eq_of_mem_replicate h

private theorem not_mem_spaces {c : Char} (hc : c ≠ ' ') (n : Nat) : c ∉ spaces n := fun h =>
  hc (mem_spaces h)

private theorem spaces_padding (n : Nat) :
    ∀ c ∈ spaces n, Whole.isPadding c = true := fun c hc => by
  rw [mem_spaces hc]
  decide

private theorem spaces_ne_nil {n : Nat} : spaces n ≠ [] ↔ 0 < n := by
  rw [spaces, Ne, List.replicate_eq_nil_iff, Nat.pos_iff_ne_zero]

/-- A line that changes the player by two amounts, without spaces. -/
def plainLine (a b : TypedAmount) : List Char :=
  "player(".toList ++ (a.text ++ ',' :: (b.text ++ [')']))

/-- The same line with spaces before and behind both amounts. -/
def spacedLine (a b : TypedAmount) (i j k l : Nat) : List Char :=
  "player(".toList ++
    ((spaces i ++ a.text ++ spaces j) ++ ',' :: (spaces k ++ ((b.text ++ spaces l) ++ [')'])))

variable (a b : TypedAmount) (i j k l : Nat)

/-- A `plainLine` is a `spacedLine` with no spaces. -/
private theorem plainLine_eq_spacedLine : plainLine a b = spacedLine a b 0 0 0 0 := by
  have hfirst : spaces 0 ++ a.text ++ spaces 0 = a.text := List.append_nil _
  have hlast : b.text ++ spaces 0 = b.text := List.append_nil _
  have hline : spacedLine a b 0 0 0 0 = "player(".toList ++
      ((spaces 0 ++ a.text ++ spaces 0) ++ ',' :: ((b.text ++ spaces 0) ++ [')'])) := rfl
  rw [hline, hfirst, hlast]
  rfl

/-- The arguments of a line with spaces. -/
def spacedArguments : TwoArguments where
  first := spaces i ++ a.text ++ spaces j
  gap := spaces k
  last := b.text ++ spaces l
  rest := []
  first_comma := by simp [not_mem_spaces, a.not_mem_text]
  gap_blank := fun c hc => by
    rw [mem_spaces hc]
    decide
  last_tight := by
    obtain ⟨c, cs, htext, hc⟩ := b.exists_text_eq_cons
    rw [htext]
    exact hc
  last_close := by simp [not_mem_spaces, b.not_mem_text]

private theorem newline_not_mem_spacedArguments : '\n' ∉ (spacedArguments a b i j k l).text := by
  simp [spacedArguments, TwoArguments.text, not_mem_spaces, TypedAmount.not_mem_text]

/-- No blank stands at an end of a `spacedLine`. -/
private theorem trim_spacedLine : Text.trim (spacedLine a b i j k l) = spacedLine a b i j k l := by
  have hplayer : "player(".toList = 'p' :: "layer(".toList := by decide
  have hline : spacedLine a b i j k l = "player(".toList ++ ((spaces i ++ a.text ++ spaces j) ++
      ',' :: (spaces k ++ ((b.text ++ spaces l) ++ [')']))) := rfl
  have hends : spacedLine a b i j k l = 'p' :: (("layer(".toList ++ (spaces i ++ a.text ++
      spaces j) ++ ',' :: (spaces k ++ (b.text ++ spaces l))) ++ [')']) := by
    rw [hline, hplayer]
    simp only [List.append_assoc, List.cons_append]
  rw [hends]
  exact Text.trim_of_ends (by decide) (by decide) _

/-- A `spacedLine` is read as a change to the player. Only the spaces in front of the second amount
    are gone then. -/
private theorem parse_spacedLine :
    parse (spacedLine a b i j k l) =
      some (.player (String.ofList (spaces i ++ a.text ++ spaces j))
        (String.ofList (b.text ++ spaces l))) := by
  have hline : spacedLine a b i j k l = "player(".toList ++ (spacedArguments a b i j k l).text :=
    rfl
  rw [parse_player (trim_spacedLine a b i j k l) hline,
    playerArguments_text _ (newline_not_mem_spacedArguments a b i j k l)]
  rfl

/-- The world after the player has been changed by two amounts. -/
def changed (w : World) : World :=
  { w with game := { w.game with
    player := { hp := a.result w.game.player.hp, damage := b.result w.game.player.damage } } }

/-- Where the word `add` is not hidden, both amounts are what they were typed as. -/
theorem exec_run_spacedLine (hshown : ¬ (0 < i ∧ a.adds = true)) (w : World) :
    (run (spacedLine a b i j k l)).exec w = (.ok none, changed a b w) := by
  have hleft : spaces i = [] ∨ a.adds = false := by
    rwa [← spaces_ne_nil, ne_eq, not_and_or, not_not, Bool.not_eq_true] at hshown
  have hfirst := a.apply_padded (spaces_padding i) (spaces_padding j) hleft w.game.player.hp
  -- the line was cut behind the spaces in front of the second amount
  have hlast := b.apply_padded (spaces_padding 0) (spaces_padding l) (.inl rfl) w.game.player.damage
  rw [show spaces 0 ++ b.text = b.text from rfl] at hlast
  rw [exec_run_of_parse (parse_spacedLine a b i j k l), perform, exec_bind, exec_setPlayer, hfirst]
  dsimp only
  rw [hlast]
  rfl

private theorem exec_run_plainLine (w : World) :
    (run (plainLine a b)).exec w = (.ok none, changed a b w) := by
  rw [plainLine_eq_spacedLine]
  exact exec_run_spacedLine a b 0 0 0 0 (fun h => Nat.lt_irrefl 0 h.1) w

/-- Where the word `add` is hidden, the line fails at the first amount and changes nothing. -/
theorem exec_run_spacedLine_of_hidden (hi : 0 < i) (ha : a.adds = true) (w : World) :
    (run (spacedLine a b i j k l)).exec w =
      (.error (.notNumber (String.ofList (spaces i ++ a.text ++ spaces j))), w) := by
  cases a with
  | set n => cases ha
  | add n =>
    have hfirst := TypedAmount.apply_padded_add (spaces_padding i) (spaces_padding j)
      (spaces_ne_nil.2 hi) n w.game.player.hp
    rw [exec_run_of_parse (parse_spacedLine _ b i j k l), perform, exec_bind, exec_setPlayer,
      hfirst]

/-- Without spaces a line sets both amounts, or adds them, as they are typed. With spaces it does
    the same, unless there are some in front of a first amount that is to be added: then it fails,
    since the amount is taken for a number. So it is in this case only that spaces matter. -/
theorem spaces_around_amounts_matter_iff (w : World) :
    (run (plainLine a b)).exec w = (.ok none, changed a b w) ∧
    (run (spacedLine a b i j k l)).exec w =
      (if 0 < i ∧ a.adds = true then
        (.error (.notNumber (String.ofList (spaces i ++ a.text ++ spaces j))), w)
      else (run (plainLine a b)).exec w) ∧
    ((run (spacedLine a b i j k l)).exec w ≠ (run (plainLine a b)).exec w ↔
      0 < i ∧ a.adds = true) := by
  have hplain := exec_run_plainLine a b w
  -- a line that fails cannot do the same as one that does not
  by_cases hhidden : 0 < i ∧ a.adds = true
  · have hfails := exec_run_spacedLine_of_hidden a b i j k l hhidden.1 hhidden.2 w
    refine ⟨hplain, by rw [if_pos hhidden, hfails], iff_of_true (fun heq => ?_) hhidden⟩
    rw [hfails, hplain] at heq
    cases congrArg Prod.fst heq
  · have hworks := exec_run_spacedLine a b i j k l hhidden w
    have hsame := hworks.trans hplain.symm
    exact ⟨hplain, by rw [if_neg hhidden, hsame], iff_of_false (fun hne => hne hsame) hhidden⟩

/-- The number five. -/
def five : Whole.Typed where
  sign := []
  row := ['5']
  sign_cases := .inl rfl
  row_digits := List.forall_mem_singleton.2 (.inl (by decide))
  row_spaced := rfl
  row_short := by decide

/-- A space in front of `add 5` hides that five points are to be added. -/
theorem space_hides_add :
    spacedLine (.add five) (.set five) 1 0 0 0 = "player( add 5,5)".toList ∧
    plainLine (.add five) (.set five) = "player(add 5,5)".toList ∧
    (run (spacedLine (.add five) (.set five) 1 0 0 0)).exec {} ≠
      (run (plainLine (.add five) (.set five))).exec {} := by
  refine ⟨by decide, by decide, fun heq => ?_⟩
  rw [exec_run_spacedLine_of_hidden _ _ _ _ _ _ Nat.one_pos rfl, exec_run_plainLine] at heq
  cases congrArg Prod.fst heq

end Command

end Gamebook

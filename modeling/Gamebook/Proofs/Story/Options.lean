import Gamebook.Proofs.Command
import Gamebook.Story

/-!
# The options of a menu

The text of a menu reaches up to the first closing parenthesis, so there is none in it. A comma is
kept together with what follows only if the next parenthesis closes, and therefore no comma of the
text ever is: the options are what stands between the commas.

An author may write options with parentheses, and with commas inside of these. Then the first
closing parenthesis is the one of an option, and the menu ends there. So a menu is shown with the
options it was written with exactly if there are no parentheses in them.

## Key results

- `closesNext_iff`: which commas are kept together with what follows
- `splitOptions_of_not_mem`: without a closing parenthesis a text is cut at every comma
- `options?_eq`: the options of every menu
- `menu_shows_its_options_iff`: when a menu is shown with the options it was written with
- `menu_cut_at_every_comma`: the options of every line that opens a menu
-/

namespace Gamebook

namespace Text

/-! ## Pieces and blanks -/

/-- There is no mark in a piece of `splitOn`. -/
private theorem mark_not_mem_of_mem_splitOn {mark : Char} {cs piece : List Char}
    (h : piece ∈ cs.splitOn mark) : mark ∉ piece := by
  induction cs generalizing piece with
  | nil =>
    rw [List.splitOn_nil, List.mem_singleton] at h
    rw [h]
    exact List.not_mem_nil
  | cons c cs ih =>
    obtain ⟨first, pieces, hsplit⟩ := List.exists_cons_of_ne_nil (List.splitOn_ne_nil mark cs)
    rw [List.splitOn_cons_eq_if_modifyHead, hsplit] at h
    rw [hsplit] at ih
    split at h
    · rcases List.mem_cons.1 h with rfl | h
      · exact List.not_mem_nil
      · exact ih h
    · -- the character is no mark, and goes to the first piece
      rename_i hc
      rw [List.modifyHead_cons] at h
      rcases List.mem_cons.1 h with rfl | h
      · have hfirst := ih List.mem_cons_self
        simpa using ⟨fun heq => hc (beq_iff_eq.2 heq.symm), hfirst⟩
      · exact ih (List.mem_cons_of_mem _ h)

/-- The pieces of `splitOn` are made of the characters of the text. -/
private theorem mem_of_mem_splitOn {mark c : Char} {cs piece : List Char}
    (hpiece : piece ∈ cs.splitOn mark)
    (hc : c ∈ piece) : c ∈ cs := by
  have hmark : c ∉ [mark] := by
    rw [List.mem_singleton]
    rintro rfl
    exact mark_not_mem_of_mem_splitOn hpiece hc
  have hjoined : [mark].intercalate (cs.splitOn mark) = cs := List.intercalate_splitOn mark
  rw [← hjoined, mem_intercalate hmark]
  exact ⟨piece, hpiece, hc⟩

/-- `splitOn` gives one piece more than there are marks. -/
private theorem length_splitOn (mark : Char) (cs : List Char) :
    (cs.splitOn mark).length = cs.count mark + 1 := by
  induction cs with
  | nil => rfl
  | cons c cs ih =>
    rw [List.splitOn_cons_eq_if_modifyHead, List.count_cons]
    split
    · rw [List.length_cons, ih]
    · rw [List.length_modifyHead, ih, Nat.add_zero]

/-- A text that is joined with commas and spaces is cut at the commas by `splitOn`, and the spaces
    stay. -/
private theorem splitOn_intercalate_space {mark : Char} {piece : List Char}
    {pieces : List (List Char)}
    (h : ∀ p ∈ piece :: pieces, mark ∉ p) (hspace : mark ≠ ' ') :
    ([mark, ' '].intercalate (piece :: pieces)).splitOn mark =
      piece :: pieces.map (' ' :: ·) := by
  have hpiece := h piece List.mem_cons_self
  induction pieces generalizing piece with
  | nil => rw [List.intercalate_singleton, List.splitOn_eq_singleton hpiece, List.map_nil]
  | cons next pieces ih =>
    have hrest := ih (fun p hp => h p (List.mem_cons_of_mem _ hp)) (h next (by simp))
    -- behind the comma there is a space, which goes to the next piece
    rw [List.intercalate_cons_cons, List.append_assoc, List.cons_append, List.cons_append,
      List.nil_append, List.splitOn_append_cons_self_of_not_mem hpiece,
      List.splitOn_cons_eq_if_modifyHead, if_neg fun heq => hspace (beq_iff_eq.1 heq).symm, hrest,
      List.modifyHead_cons, List.map_cons]

private theorem trim_space (cs : List Char) : trim (' ' :: cs) = trim cs := by
  have hpadded := trim_padded (by decide : AllBlank [' ']) (by decide : AllBlank []) cs
  simpa using hpadded

end Text

namespace Story

/-! ## Reading a menu -/

/-- A comma in front of this text is kept together with it: there is a closing parenthesis in the
    text, and none of either kind before it. -/
def KeepsComma (cs : List Char) : Prop :=
  ∃ before rest, cs = before ++ ')' :: rest ∧ '(' ∉ before ∧ ')' ∉ before

/-- `closesNext` decides `KeepsComma`. -/
theorem closesNext_iff {cs : List Char} : closesNext cs = true ↔ KeepsComma cs := by
  rw [closesNext, beq_iff_eq]
  constructor
  · -- what is passed over before the parenthesis holds none of either kind
    intro hhead
    obtain ⟨rest, hrest⟩ := List.head?_eq_some_iff.1 hhead
    have hbefore {c : Char} (hc : c ∈ cs.takeWhile fun c => c != '(' && c != ')') :
        c ≠ '(' ∧ c ≠ ')' := by
      simpa using List.mem_takeWhile_imp hc
    refine ⟨_, rest, ?_, fun hmem => (hbefore hmem).1 rfl, fun hmem => (hbefore hmem).2 rfl⟩
    rw [← hrest, List.takeWhile_append_dropWhile]
  · rintro ⟨before, rest, rfl, hopen, hclose⟩
    rw [List.dropWhile_append_of_pos]
    · rfl
    · intro c hc
      simpa using ⟨fun h => hopen (h ▸ hc), fun h => hclose (h ▸ hc)⟩

/-- Without a closing parenthesis no comma is kept together with what follows. -/
private theorem closesNext_of_not_mem {cs : List Char} (h : ')' ∉ cs) : closesNext cs = false := by
  rw [Bool.eq_false_iff, Ne, closesNext_iff]
  rintro ⟨before, rest, rfl, -, -⟩
  exact h (List.mem_append_right _ List.mem_cons_self)

/-- Without a closing parenthesis `splitOptions` cuts at every comma. -/
theorem splitOptions_of_not_mem {cs : List Char} (h : ')' ∉ cs) :
    splitOptions cs = cs.splitOn ',' := by
  induction cs with
  | nil => rfl
  | cons c cs ih =>
    simp only [List.mem_cons, not_or] at h
    have hnext := closesNext_of_not_mem h.2
    have hcs := ih h.2
    obtain ⟨piece, pieces, hsplit⟩ := List.exists_cons_of_ne_nil (List.splitOn_ne_nil ',' cs)
    rw [splitOptions, hcs, hnext, List.splitOn_cons_eq_if_modifyHead, hsplit]
    simp

/-- The options in a text: what stands between its commas, without the blanks around it. -/
def piecesOf (cs : List Char) : List String :=
  (cs.splitOn ',').map fun piece => String.ofList (Text.trim piece)

/-- `options?` cuts what stands before the first closing parenthesis. -/
private theorem options?_append_close {inside : List Char} (hclose : ')' ∉ inside) (hline :
    '\n' ∉ inside)
    (behind : List Char) : options? (inside ++ ')' :: behind) = some (piecesOf inside) := by
  have hcut : Command.cutAt ')' some (inside ++ ')' :: behind) = some (inside, behind) :=
    Command.cutAt_of_next hclose hline (by decide) rfl
  rw [options?, hcut]
  simp only [Option.map_some, splitOptions_of_not_mem hclose, piecesOf]

/-- `options?` reads up to the first closing parenthesis, and finds nothing without one. -/
theorem options?_eq {cs : List Char} (hline : '\n' ∉ cs) :
    options? cs = if ')' ∈ cs then some (piecesOf (cs.takeWhile (· != ')'))) else none := by
  split
  · rename_i hmem
    -- the options end at the first bracket
    obtain ⟨inside, rest, rfl, hinside⟩ := List.eq_append_cons_of_mem hmem
    have htake : (inside ++ ')' :: rest).takeWhile (· != ')') = inside := by
      rw [List.takeWhile_append_of_pos]
      · simp
      · intro c hc
        simpa using fun h : c = ')' => hinside (h ▸ hc)
    rw [options?_append_close hinside fun h => hline (List.mem_append_left _ h), htake]
  · rename_i hmem
    rw [options?, Command.cutAt_of_not_mem hmem]
    rfl

/-- How a story goes on behind a menu, with what was noted and with the number that was chosen. -/
def afterMenu (carry : Line → Play (Option Bool)) (notes : Notes) (rest : List Line) :
    Option Nat → Play Bool
  | none => playFrom carry 0 notes.next rest
  | some number => do
    match ← seekBlock carry number 0 notes.next rest with
    | .lost => return false
    | .used count notes => playFrom carry count notes rest

/-- `playFrom` shows a menu that it comes to, and then goes on behind it. -/
private theorem playFrom_menu {carry : Line → Play (Option Bool)} {line : Line} {cs : List Char}
    {options : List String} (hmenu : menu? line = some cs) (hoptions : options? cs = some options)
    (notes : Notes) (rest : List Line) :
    playFrom carry 0 notes (line :: rest) = (do
      let number ← Menu.choose options
      afterMenu carry ((notes.line line).menu line cs options number) rest number) := by
  simp only [playFrom, hmenu, hoptions]
  refine bind_congr fun number => ?_
  cases number <;> rfl

/-- A line of a story goes on to its end without a line end. -/
private theorem newline_not_mem_of_mem_lines {text : List Char} {line : Line}
    (h : line ∈ lines text) :
    '\n' ∉ line := by
  obtain ⟨piece, hpiece, rfl⟩ := List.mem_map.1 (List.mem_filter.1 h).1
  exact fun hmem => Text.mark_not_mem_of_mem_splitOn hpiece (Text.mem_of_mem_trim hmem)

/-! ## Options as they are written -/

/-- How many parentheses are open behind the first `n` characters of a text. -/
def openAt (cs : List Char) (n : Nat) : Int := (cs.take n).count '(' - (cs.take n).count ')'

/-- A text whose parentheses are balanced and whose commas all stand inside of them: none closes
    that is not open, all are closed in the end, and one is open at every comma. -/
def IsNested (cs : List Char) : Prop :=
  (∀ n ≤ cs.length, 0 ≤ openAt cs n) ∧ openAt cs cs.length = 0 ∧
    ∀ n < cs.length, cs[n]? = some ',' → 0 < openAt cs n

instance (cs : List Char) : Decidable (IsNested cs) := inferInstanceAs (Decidable (_ ∧ _ ∧ _))

/-- An option as an author may write it: some text on one line, with no blank at either end, with
    balanced parentheses and with commas inside of them only. -/
def IsOption (cs : List Char) : Prop :=
  cs ≠ [] ∧ Text.trim cs = cs ∧ '\n' ∉ cs ∧ IsNested cs

instance (cs : List Char) : Decidable (IsOption cs) :=
  inferInstanceAs (Decidable (_ ∧ _ ∧ _ ∧ _))

private theorem IsNested.count_eq {cs : List Char} (h : IsNested cs) :
    cs.count '(' = cs.count ')' := by
  have hclosed := h.2.1
  rw [openAt, List.take_length] at hclosed
  omega

/-- Parentheses come in pairs. -/
theorem IsNested.mem_iff {cs : List Char} (h : IsNested cs) : ')' ∈ cs ↔ '(' ∈ cs := by
  rw [← List.count_pos_iff, ← List.count_pos_iff, h.count_eq]

/-- Without parentheses there are no commas. -/
private theorem IsNested.comma_not_mem {cs : List Char} (h : IsNested cs) (hopen : '(' ∉ cs) :
    ',' ∉ cs := by
  intro hmem
  obtain ⟨n, hn, hcomma⟩ := List.getElem_of_mem hmem
  have hpos := h.2.2 n hn (by rw [List.getElem?_eq_getElem hn, hcomma])
  have hnone : (cs.take n).count '(' = 0 :=
    List.count_eq_zero.2 fun hmem => hopen (List.mem_of_mem_take hmem)
  rw [openAt, hnone] at hpos
  omega

/-- The options of a menu in one text. -/
def optionsText (options : List (List Char)) : List Char := [',', ' '].intercalate options

/-- A menu as a line of a story. -/
def menuLine (options : List (List Char)) : Line :=
  "select(".toList ++ (optionsText options ++ [')'])

private theorem menu?_menuLine (options : List (List Char)) :
    menu? (menuLine options) = some (optionsText options ++ [')']) :=
  Text.isPrefixOf?_append _ _

/-- A menu starts with a letter and ends with a parenthesis. -/
private theorem menuLine_eq (options : List (List Char)) :
    menuLine options = 's' :: ("elect(".toList ++ optionsText options ++ [')']) := by
  have hselect : "select(".toList = 's' :: "elect(".toList := by decide
  have hline : menuLine options = "select(".toList ++ (optionsText options ++ [')']) := rfl
  rw [hline, hselect, List.cons_append, List.append_assoc]

private theorem trim_menuLine (options : List (List Char)) :
    Text.trim (menuLine options) = menuLine options := by
  rw [menuLine_eq]
  exact Text.trim_of_ends (by decide) (by decide) _

private theorem mem_optionsText {c : Char} {options : List (List Char)} (hc : c ∉ [',', ' ']) :
    c ∈ optionsText options ↔ ∃ option ∈ options, c ∈ option :=
  Text.mem_intercalate hc

section

variable {options : List (List Char)} (hoptions : ∀ option ∈ options, IsOption option)

include hoptions

private theorem newline_not_mem_optionsText : '\n' ∉ optionsText options ++ [')'] := by
  rw [List.mem_append, mem_optionsText (by decide)]
  rintro (⟨option, hmem, hline⟩ | hline)
  · exact (hoptions option hmem).2.2.1 hline
  · simp at hline

/-- A `menuLine` in a file is a line of the story as it stands. -/
private theorem lines_menuLine : lines (menuLine options) = [menuLine options] := by
  have hword : '\n' ∉ "select(".toList := by decide
  have hline : '\n' ∉ menuLine options := fun hmem =>
    (List.mem_append.1 hmem).elim hword (newline_not_mem_optionsText hoptions)
  rw [lines, List.splitOn_eq_singleton hline, List.map_singleton, trim_menuLine, menuLine_eq]
  simp

/-- A menu is shown with the pieces of its text up to the first closing parenthesis. -/
private theorem options?_optionsText :
    options? (optionsText options ++ [')']) =
      some (piecesOf ((optionsText options).takeWhile (· != ')'))) := by
  have htake : (optionsText options ++ [')']).takeWhile (· != ')') =
      (optionsText options).takeWhile (· != ')') := by
    rw [List.takeWhile_append]
    split
    · rename_i hlength
      rw [( List.takeWhile_prefix _).eq_of_length hlength]
      simp
    · rfl
  rw [options?_eq (newline_not_mem_optionsText hoptions), if_pos (by simp), htake]

/-- Without parentheses the pieces are the options. -/
private theorem piecesOf_optionsText (hne : options ≠ [])
    (hplain : ∀ option ∈ options, '(' ∉ option) :
    piecesOf ((optionsText options).takeWhile (· != ')')) = options.map String.ofList := by
  have hnested {option : List Char} (hmem : option ∈ options) : IsNested option :=
    (hoptions option hmem).2.2.2
  -- no parenthesis closes, so the whole text is read
  have htake : (optionsText options).takeWhile (· != ')') = optionsText options := by
    rw [List.takeWhile_eq_self_iff]
    intro c hc
    rw [bne_iff_ne]
    rintro rfl
    obtain ⟨option, hmem, hclose⟩ := (mem_optionsText (by decide)).1 hc
    exact hplain option hmem ((hnested hmem).mem_iff.1 hclose)
  obtain ⟨first, others, rfl⟩ := List.exists_cons_of_ne_nil hne
  have hcut := Text.splitOn_intercalate_space
    (fun option hmem => (hnested hmem).comma_not_mem (hplain option hmem))
    (by decide : ',' ≠ ' ')
  have htrim {option : List Char} (hmem : option ∈ first :: others) : Text.trim option = option :=
    (hoptions option hmem).2.1
  rw [htake, piecesOf, optionsText, hcut, List.map_cons, List.map_cons, List.map_map,
    htrim List.mem_cons_self]
  -- the space behind each comma is trimmed away
  congr 1
  refine List.map_congr_left fun option hmem => ?_
  rw [Function.comp_apply, Text.trim_space, htrim (List.mem_cons_of_mem _ hmem)]

/-- With a parenthesis in an option the pieces are not the options: no piece has one that closes. -/
private theorem piecesOf_ne_options {option : List Char} (hmem : option ∈ options)
    (hopen : '(' ∈ option) :
    piecesOf ((optionsText options).takeWhile (· != ')')) ≠ options.map String.ofList := by
  intro heq
  have hpiece : String.ofList option ∈ piecesOf ((optionsText options).takeWhile (· != ')')) := by
    rw [heq]
    exact List.mem_map_of_mem hmem
  obtain ⟨piece, hpiece, hsame⟩ := List.mem_map.1 hpiece
  rw [String.ofList_inj] at hsame
  -- the piece would have the parenthesis that closes the one in the option
  have hclose : ')' ∈ Text.trim piece := hsame ▸ (hoptions option hmem).2.2.2.mem_iff.2 hopen
  have hinside := Text.mem_of_mem_splitOn hpiece (Text.mem_of_mem_trim hclose)
  have hnot := List.mem_takeWhile_imp hinside
  simp at hnot

end

/-- A menu is shown with the pieces of its text up to the first closing parenthesis. These are the
    options it was written with exactly if there is no parenthesis in any of them. -/
theorem menu_shows_its_options_iff {options : List (List Char)} (htwo : 2 ≤ options.length)
    (hoptions : ∀ option ∈ options, IsOption option) :
    lines (menuLine options) = [menuLine options] ∧
    ∃ shown : List String,
      (∀ (notes : Notes) (rest : List Line), ∃ noted : Option Nat → Notes,
        playFrom Command.run 0 notes (menuLine options :: rest) = (do
          let number ← Menu.choose shown
          afterMenu Command.run (noted number) rest number)) ∧
      shown = piecesOf ((optionsText options).takeWhile (· != ')')) ∧
      (shown = options.map String.ofList ↔ ∀ option ∈ options, '(' ∉ option) := by
  have hne : options ≠ [] := by
    rintro rfl
    simp at htwo
  have hread := options?_optionsText hoptions
  refine ⟨lines_menuLine hoptions, _, fun notes rest => ?_, rfl, ?_⟩
  · exact ⟨_, playFrom_menu (menu?_menuLine options) hread notes rest⟩
  · -- the text is cut at the first bracket that closes, so no piece has a pair of brackets
    exact ⟨fun heq option hmem hopen => piecesOf_ne_options hoptions hmem hopen heq,
      piecesOf_optionsText hoptions hne⟩

theorem menu_of_two_ways : ∃ shown : List String,
    (∀ (notes : Notes) (rest : List Line), ∃ noted : Option Nat → Notes,
      playFrom Command.run 0 notes ("select(Go left, Go: right!)".toList :: rest) = (do
        let number ← Menu.choose shown
        afterMenu Command.run (noted number) rest number)) ∧
    shown = ["Go left", "Go: right!"] := by
  have hoptions : ∀ option ∈ ["Go left".toList, "Go: right!".toList], IsOption option := by
    intro option hmem
    simp only [List.mem_cons, List.not_mem_nil, or_false] at hmem
    rcases hmem with rfl | rfl <;> decide
  have hplain : ∀ option ∈ ["Go left".toList, "Go: right!".toList], '(' ∉ option := by
    intro option hmem
    simp only [List.mem_cons, List.not_mem_nil, or_false] at hmem
    rcases hmem with rfl | rfl <;> decide
  obtain ⟨-, shown, hplay, -, hiff⟩ := menu_shows_its_options_iff (by decide) hoptions
  exact ⟨shown, hplay, hiff.2 hplain⟩

/-- A world with a story that is a menu of two options, one of them with a note in parentheses, and
    a player who takes the first. -/
def notedOption : World where
  disk := { entries := [("games", .folder
    [("g.txr", .file (Text.Utf8.encode "select(a (x), b)\n".toList))])] }
  console := { answers := [.line "1"] }

/-- The menu ends in the first option, and with a single option it is not shown at all. -/
theorem note_cuts_menu_short :
    IsOption "a (x)".toList ∧ IsOption "b".toList ∧
    menuLine ["a (x)".toList, "b".toList] = "select(a (x), b)".toList ∧
    options? "a (x), b)".toList = some ["a (x"] ∧
    ((run "g.txr").exec notedOption).1.toOption = some (some true) ∧
    ((run "g.txr").exec notedOption).2.console.events.toList = [.print "select_min_options"] := by
  decide +kernel

/-! ## Every comma -/

/-- A line that opens with `select(` is a menu exactly if there is a closing parenthesis behind
    that, and else it is passed over. The options of the menu are what stands between the commas up
    to the first closing parenthesis, without the blanks around it. No comma there is kept together
    with what follows, whatever parentheses are open, so that there is one option more than there
    are commas. -/
theorem menu_cut_at_every_comma {text cs : List Char}
    (hline : "select(".toList ++ cs ∈ lines text) :
    ((options? cs).isSome = true ↔ ')' ∈ cs) ∧
    (')' ∉ cs → ∀ (notes : Notes) (rest : List Line), ∃ noted,
      playFrom Command.run 0 notes (("select(".toList ++ cs) :: rest) =
        playFrom Command.run 0 noted rest) ∧
    ∀ inside behind, cs = inside ++ ')' :: behind → ')' ∉ inside →
      (∀ before after, inside = before ++ ',' :: after →
        closesNext after = false ∧ ¬ KeepsComma after) ∧
      ∃ shown : List String,
        (∀ (notes : Notes) (rest : List Line), ∃ noted : Option Nat → Notes,
          playFrom Command.run 0 notes (("select(".toList ++ cs) :: rest) = (do
            let number ← Menu.choose shown
            afterMenu Command.run (noted number) rest number)) ∧
        shown = (inside.splitOn ',').map (fun piece => String.ofList (Text.trim piece)) ∧
        shown.length = inside.count ',' + 1 := by
  have hmenu : menu? ("select(".toList ++ cs) = some cs := Text.isPrefixOf?_append _ _
  have hfeed : '\n' ∉ cs := fun hmem =>
    newline_not_mem_of_mem_lines hline (List.mem_append_right _ hmem)
  have hread := options?_eq hfeed
  refine ⟨?_, fun hnone notes rest => ?_, ?_⟩
  · rw [hread]
    split <;> simp [*]
  · -- without a closing parenthesis the line is passed over
    rw [if_neg hnone] at hread
    refine ⟨(notes.line ("select(".toList ++ cs)).noMenu.next, ?_⟩
    simp only [playFrom, hmenu, hread]
  · rintro inside behind rfl hinside
    have hoptions := options?_append_close hinside
      (fun hmem => hfeed (List.mem_append_left _ hmem)) behind
    refine ⟨?_, piecesOf inside, fun notes rest => ⟨_, playFrom_menu hmenu hoptions notes rest⟩,
      ?_, ?_⟩
    · rintro before after rfl
      -- behind the comma there is no closing parenthesis up to the end of the menu
      have hafter : ')' ∉ after := fun hmem =>
        hinside (List.mem_append_right _ (List.mem_cons_of_mem _ hmem))
      have hnext := closesNext_of_not_mem hafter
      exact ⟨hnext, closesNext_iff.not.1 (Bool.eq_false_iff.1 hnext)⟩
    · rfl
    · rw [piecesOf, List.length_map, Text.length_splitOn]

/-- A menu with parentheses inside of parentheses, and with a comma in each of them, is cut at both
    commas. -/
theorem nested_menu_cut_at_every_comma :
    "select(go (far, (very, far), stay)".toList ∈
      lines "  select(go (far, (very, far), stay)\n".toList ∧
    ∀ (notes : Notes) (rest : List Line), ∃ noted : Option Nat → Notes,
      playFrom Command.run 0 notes ("select(go (far, (very, far), stay)".toList :: rest) = (do
        let number ← Menu.choose ["go (far", "(very", "far"]
        afterMenu Command.run (noted number) rest number) := by
  have hparts : "select(go (far, (very, far), stay)".toList =
        "select(".toList ++ ("go (far, (very, far".toList ++ ')' :: ", stay)".toList) ∧
      "select(go (far, (very, far), stay)".toList ∈
        lines "  select(go (far, (very, far), stay)\n".toList ∧
      ')' ∉ "go (far, (very, far".toList ∧
      ("go (far, (very, far".toList.splitOn ',').map
        (fun piece => String.ofList (Text.trim piece)) = ["go (far", "(very", "far"] := by
    decide +kernel
  obtain ⟨hmenu, hline, hclose, hpieces⟩ := hparts
  refine ⟨hline, ?_⟩
  rw [hmenu] at hline ⊢
  obtain ⟨-, shown, hplay, hshown, -⟩ := (menu_cut_at_every_comma hline).2.2 _ _ rfl hclose
  rwa [hshown, hpieces] at hplay

end Story

end Gamebook

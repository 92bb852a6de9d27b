import Gamebook.Proofs.Story.Choice
import Gamebook.Proofs.Story.Opening

/-!
# Choices without a block

After a choice the block with its number is looked for in the lines behind the menu. The search uses
up the lines it passes. So if it comes to the end of the story there is nothing left to play, and
the story is over at once, whatever stands behind the menu.

The lines behind the menu, in a story of their own, are handed over or shown as menus one by one.
The only lines with which nothing is done are menus without a closing parenthesis.

## Key results

- `target_eq_none`: a search finds nothing among lines that are no headers
- `Runs.deeds_eq_nil_iff`: when the machine goes through lines without doing anything
- `rest_played_after_choice_iff`: when the lines behind a menu are played as they would be alone
-/

namespace Gamebook.Story

open Play

/-! ## A search in vain -/

/-- `target` finds nothing among lines that are no headers. -/
theorem target_eq_none {lines rest : List Line} {i : Nat} (number : Nat)
    (hdrop : lines.drop (i + 1) = rest) (hheader : ∀ line ∈ rest, header? line = none) :
    target lines i number = none := by
  rw [target, hdrop, findSome?_verdict_plain hheader]

section

variable {carry : Line → Play (Option Bool)} {lines rest : List Line} {i k : Nat} {w w' : World}

/-- At a menu without a block for the choice the machine asks, and then the story is over. -/
private theorem runs_of_choose_in_vain {menu : Line} {cs : List Char} {options : List String}
    (hdrop : lines.drop i = menu :: rest) (hmenu : menu? menu = some cs)
    (hoptions : options? cs = some options) (hheader : ∀ line ∈ rest, header? line = none)
    (hchoice : (Menu.choose options).exec w = (.ok (some k), w')) :
    Runs carry lines (.top i) w [.asked i] (.ok true, w') := by
  obtain ⟨hline, hrest⟩ := getElem?_of_drop_eq_cons hdrop
  have haction : action lines (.top i) = .ask i options := by
    simp only [action, hline, hmenu, hoptions]
  -- no header is behind the menu, so the search comes to the end of the lines
  have hstep : (step carry lines (.top i)).exec w = (.ok (.done true), w') := by
    rw [exec_step_ask haction, hchoice]
    simp only [target_eq_none k hrest hheader, afterSearch]
  have hrun := Runs.done hstep
  rw [haction] at hrun
  exact hrun

/-! ## Lines with which nothing is done -/

/-- A menu without a closing parenthesis, which is passed over. -/
def IsBrokenMenu (line : Line) : Prop := ∃ cs, menu? line = some cs ∧ options? cs = none

/-- The first deeds of a run are those of the first action. -/
private theorem Runs.deeds_isPrefix {place : Place} {deeds : List Deed}
    {out : Except Fault Bool × World} (h : Runs carry lines place w deeds out) :
    (action lines place).deeds <+: deeds := by
  cases h with
  | done => exact List.prefix_rfl
  | fault => exact List.prefix_rfl
  | go => exact List.prefix_append _ _

/-- Nothing is done with the lines of a story exactly if each of them `IsBrokenMenu`, and then the
    world stays as it is. -/
theorem Runs.deeds_eq_nil_iff (hdrop : lines.drop i = rest) {deeds : List Deed}
    {out : Except Fault Bool × World} (h : Runs carry lines (.top i) w deeds out) :
    (deeds = [] ∧ out = (.ok true, w)) ↔ ∀ line ∈ rest, IsBrokenMenu line := by
  -- a broken menu is passed over, and anything else leaves a deed
  induction rest generalizing i deeds with
  | nil =>
    obtain ⟨rfl, rfl⟩ := h.unique (runs_of_drop_eq_nil carry hdrop w)
    simp
  | cons line rest ih =>
    obtain ⟨hline, hrest⟩ := getElem?_of_drop_eq_cons hdrop
    have hprefix := h.deeds_isPrefix
    cases hmenu : menu? line with
    | none =>
      -- the line is handed over
      have haction : action lines (.top i) = .carry i line (.top (i + 1)) := by
        simp only [action, hline, hmenu]
      rw [haction] at hprefix
      refine iff_of_false ?_ fun hall => ?_
      · rintro ⟨rfl, -⟩
        cases List.prefix_nil.1 hprefix
      · obtain ⟨cs, hcs, -⟩ := hall line List.mem_cons_self
        rw [hmenu] at hcs
        cases hcs
    | some cs =>
      cases hoptions : options? cs with
      | some options =>
        -- the menu is shown
        have haction : action lines (.top i) = .ask i options := by
          simp only [action, hline, hmenu, hoptions]
        rw [haction] at hprefix
        refine iff_of_false ?_ fun hall => ?_
        · rintro ⟨rfl, -⟩
          cases List.prefix_nil.1 hprefix
        · obtain ⟨cs', hcs, hbroken⟩ := hall line List.mem_cons_self
          rw [hmenu] at hcs
          cases hcs
          rw [hoptions] at hbroken
          cases hbroken
      | none =>
        -- the menu is passed over, and the rest decides
        have haction : action lines (.top i) = .pass (.top (i + 1)) := by
          simp only [action, hline, hmenu, hoptions]
        have hstep : (step carry lines (.top i)).exec w = _ := exec_step_pass haction
        cases h with
        | done h => rw [hstep] at h; cases h
        | fault h => rw [hstep] at h; cases h
        | go h next =>
          rw [hstep] at h
          cases h
          rw [haction, Action.deeds, List.nil_append, ih hrest next, List.forall_mem_cons]
          exact (and_iff_right ⟨cs, hmenu, hoptions⟩).symm

end

/-! ## Whole stories -/

/-- After a choice without a block the story is over, and nothing is done with the lines behind the
    menu. So they are played as they would be in a story of their own, from the same world, exactly
    if nothing is done with them there either: if they are all broken menus. -/
theorem rest_played_after_choice_iff {name other : String} {w w₀ w₁ w₂ : World}
    {notes notes' : Notes} {before rest : List Line} {menu : Line} {cs : List Char}
    {options : List String} {k : Nat}
    (hopen : (openStory name).exec w = (.ok (some (notes, before ++ menu :: rest)), w₀))
    (hmenu : menu? menu = some cs) (hoptions : options? cs = some options)
    (hbefore : ∀ line ∈ before, menu? line = none) (hrest : ∀ line ∈ rest, header? line = none)
    (hplay : (play notes before).exec w₀ = (.ok true, w₁))
    (hchoice : (Menu.choose options).exec w₁ = (.ok (some k), w₂))
    (hother : (openStory other).exec w₂ = (.ok (some (notes', rest)), w₂)) :
    StoryRuns name w (carriedFrom 0 before.length ++ [.asked before.length])
      ((run name).exec w) ∧
    (run name).exec w = (.ok (some true), w₂) ∧
    ∃ deeds, StoryRuns other w₂ deeds ((run other).exec w₂) ∧
      (deeds = [] ∧ (run other).exec w₂ = (run name).exec w ↔
        ∀ line ∈ rest, IsBrokenMenu line) := by
  have hasked : Runs Command.run (before ++ menu :: rest) (.top before.length) w₁
      [.asked before.length] (.ok true, w₂) :=
    runs_of_choose_in_vain List.drop_left hmenu hoptions hrest hchoice
  have hruns := Runs.through (i := 0) (List.drop_zero ..) hbefore hplay
    (by rw [Nat.zero_add]; exact hasked)
  have hstory : StoryRuns name w (carriedFrom 0 before.length ++ [.asked before.length])
      (.ok (some true), w₂) := by
    unfold StoryRuns
    rw [hopen]
    exact ⟨_, hruns, rfl⟩
  -- it ends as the loops do, since there is only one run
  obtain ⟨_, -, hrun⟩ := exists_storyRuns name w
  obtain ⟨-, hout⟩ := hrun.unique hstory
  refine ⟨hout ▸ hstory, hout, ?_⟩
  obtain ⟨deeds, -, halone⟩ := exists_storyRuns other w₂
  refine ⟨deeds, halone, ?_⟩
  -- the lines alone are played from the world after the choice
  unfold StoryRuns at halone
  rw [hother] at halone
  obtain ⟨won, hwon, hsame⟩ := halone
  rw [hout, hsame, ← hwon.deeds_eq_nil_iff (List.drop_zero ..)]
  refine and_congr_right fun _ => ?_
  rcases won with ⟨f | won, v⟩ <;> simp [Except.map]

/-! ## A story with a line behind its menu -/

/-- A story with a header before its menu and a line behind it. -/
def vainText : List Char := "1:\nselect(a, b)\nplayer(5, 5)\n".toList

/-- A story of the line behind the menu alone. -/
def restText : List Char := "player(5, 5)\n".toList

/-- The line behind the menu. -/
@[irreducible] def lineBehind : Line := "player(5, 5)".toList

/-- A world with both stories, and a player who takes the first option. -/
def vainChoice : World where
  disk := { entries := [("games", .folder
    [("g.txr", .file (Text.Utf8.encode vainText)),
     ("rest.txr", .file (Text.Utf8.encode restText))])] }
  console := { answers := [.line "1"] }

/-- The world after the choice. -/
@[irreducible] def vainChoiceMade : World := ((Menu.choose ["a", "b"]).exec vainChoice).2

private theorem exec_choose_vainChoice :
    (Menu.choose ["a", "b"]).exec vainChoice = (.ok (some 1), vainChoiceMade) := by
  unfold vainChoiceMade
  exact exec_of_toOption (by decide +kernel)

private theorem lines_vainChoice :
    lines (Text.unifyLineEnds vainText) = [heading 1] ++ twoOptions :: [lineBehind] ∧
      lines (Text.unifyLineEnds restText) = [lineBehind] := by
  decide +kernel

private theorem exec_open_vainChoice : ∃ notes, (openStory "g.txr").exec vainChoice =
    (.ok (some (notes, [heading 1] ++ twoOptions :: [lineBehind])), vainChoice) := by
  rw [← lines_vainChoice.1]
  exact exec_openStory_of_written (by decide) (by decide) (by decide) (by decide) rfl rfl

private theorem exec_open_restAlone : ∃ notes, (openStory "rest.txr").exec vainChoiceMade =
    (.ok (some (notes, [lineBehind])), vainChoiceMade) := by
  have hdisk : vainChoiceMade.disk = vainChoice.disk := by
    unfold vainChoiceMade
    rfl
  rw [← lines_vainChoice.2]
  exact exec_openStory_of_written (by decide) (by decide) (by decide) (by decide)
    (by rw [hdisk]; rfl) rfl

theorem rest_of_vainChoice_not_played : ∃ notes notes' deeds,
    (openStory "g.txr").exec vainChoice =
      (.ok (some (notes, [heading 1] ++ twoOptions :: [lineBehind])), vainChoice) ∧
    (Menu.choose ["a", "b"]).exec vainChoice = (.ok (some 1), vainChoiceMade) ∧
    (openStory "rest.txr").exec vainChoiceMade =
      (.ok (some (notes', [lineBehind])), vainChoiceMade) ∧
    (run "g.txr").exec vainChoice = (.ok (some true), vainChoiceMade) ∧
    StoryRuns "rest.txr" vainChoiceMade deeds ((run "rest.txr").exec vainChoiceMade) ∧
    (deeds = [] ∧ (run "rest.txr").exec vainChoiceMade = (run "g.txr").exec vainChoice ↔
      ∀ line ∈ [lineBehind], IsBrokenMenu line) := by
  obtain ⟨notes, hopen⟩ := exec_open_vainChoice
  obtain ⟨notes', hother⟩ := exec_open_restAlone
  have hbefore : ∀ line ∈ [heading 1], menu? line = none := by
    simp [menu?_heading]
  have hrest : ∀ line ∈ [lineBehind], header? line = none := by
    rw [List.forall_mem_singleton]
    unfold lineBehind
    decide
  have hplay : (play notes [heading 1]).exec vainChoice = (.ok true, vainChoice) := rfl
  obtain ⟨-, hrun, deeds, halone, hiff⟩ := rest_played_after_choice_iff hopen menu?_twoOptions
    options?_twoOptions hbefore hrest hplay exec_choose_vainChoice hother
  exact ⟨notes, notes', deeds, hopen, exec_choose_vainChoice, hother, hrun, halone, hiff⟩

/-- The first option is chosen and has no block. The story is over, and the line behind the menu has
    not been carried out; in a story of its own it changes the player. -/
theorem line_behind_menu_left_out :
    (∃ notes, (openStory "g.txr").exec vainChoice =
      (.ok (some (notes, [heading 1] ++ twoOptions :: [lineBehind])), vainChoice)) ∧
    (Menu.choose ["a", "b"]).exec vainChoice = (.ok (some 1), vainChoiceMade) ∧
    ((run "g.txr").exec vainChoice).1.toOption = some (some true) ∧
    ((run "g.txr").exec vainChoice).2.game.player = ⟨0, 0⟩ ∧
    ((run "rest.txr").exec vainChoiceMade).1.toOption = some (some true) ∧
    ((run "rest.txr").exec vainChoiceMade).2.game.player = ⟨5, 5⟩ :=
  ⟨exec_open_vainChoice, exec_choose_vainChoice, by decide +kernel⟩

end Gamebook.Story

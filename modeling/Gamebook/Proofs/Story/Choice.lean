import Gamebook.Proofs.Loops
import Gamebook.Proofs.Story.Machine
import Gamebook.Proofs.Text.Lines

/-!
# What is played after a choice

A story may hold a menu and after it one block for each option, each behind the header with its
number. After a choice the lines of the chosen block are played. The block ends at the next header,
but the story does not: it goes on with that header and with all the blocks behind it.

## Key results

- `Runs.through`, `exists_runs_block`: how the machine goes through lines among which there is no
  menu
- `exists_findSome?_numbered`: the search after a menu finds the block of the chosen number
- `handed_after_choice_iff`: only lines of the chosen block are handed over exactly if there is no
  block behind it, or the story ends in it
-/

namespace Gamebook.Story

open Play

/-! ## Scripts with numbered blocks -/

/-- A line that is neither a menu nor a header. -/
def IsPlain (line : Line) : Prop := menu? line = none ∧ header? line = none

instance (line : Line) : Decidable (IsPlain line) := inferInstanceAs (Decidable (_ ∧ _))

/-- The header of the block of a number. -/
def heading (number : Nat) : Line := Nat.toDigits 10 number ++ [':']

/-- Blocks one after the other, each behind its header, numbered from `number` on. -/
def numbered : (number : Nat) → (blocks : List (List Line)) → List Line
  | _, [] => []
  | number, block :: blocks => heading number :: (block ++ numbered (number + 1) blocks)

/-- The lines that were handed over to be carried out. -/
def handed (lines : List Line) (deeds : List Deed) : List Line :=
  deeds.filterMap fun
    | .asked _ => none
    | .carried i => lines[i]?

/-- `header?` finds the digits of the number in its `heading`. -/
private theorem header?_heading (number : Nat) :
    header? (heading number) = some (Nat.toDigits 10 number) := by
  obtain ⟨d, ds, hd, hdigit⟩ := Text.exists_toDigits_eq_cons number
  have hblank := Text.isBlank_of_isDigit (Text.isDigit_of_ascii hdigit)
  have htrim : Text.trimStart (heading number) = heading number := by
    simp [Text.trimStart, heading, hd, hblank]
  have hcolon : Text.isDigit ':' = false := by decide
  have hall := Text.all_isDigit_toDigits number
  -- the digits end at the colon
  have htake : (heading number).takeWhile Text.isDigit = Nat.toDigits 10 number := by
    rw [heading, List.takeWhile_append_of_pos hall]
    simp [hcolon]
  have hdrop : (heading number).dropWhile Text.isDigit = [':'] := by
    rw [heading, List.dropWhile_append_of_pos hall]
    simp [hcolon]
  unfold header?
  rw [htrim, List.span_eq_takeWhile_dropWhile, htake, hdrop, hd]
  rfl

/-- A `heading` is no menu. -/
theorem menu?_heading (number : Nat) : menu? (heading number) = none := by
  obtain ⟨d, ds, hd, hdigit⟩ := Text.exists_toDigits_eq_cons number
  have hne : 's' ≠ d := (Text.ne_of_isDigit (Text.isDigit_of_ascii hdigit) (by decide)).symm
  have hselect : "select(".toList = 's' :: "elect(".toList := by decide
  rw [menu?, heading, hd, hselect, List.cons_append]
  exact Text.isPrefixOf?_cons_of_ne hne _ _

/-! ## Carrying out lines in order -/

section

variable {carry : Line → Play (Option Bool)} {lines : List Line} {w w' : World} {i : Nat}

/-- The lines that are handed over when lines are carried out one after the other, until a fight is
    lost or a line fails. -/
def carriedOut (carry : Line → Play (Option Bool)) : List Line → World → List Line
  | [], _ => []
  | line :: rest, w =>
    line :: match (carry line).exec w with
      | (.ok won, w') => if won = some false then [] else carriedOut carry rest w'
      | (.error _, _) => []

/-- The lines that are `carriedOut` are the first ones. -/
private theorem carriedOut_isPrefix (lines : List Line) (w : World) :
    carriedOut carry lines w <+: lines := by
  induction lines generalizing w with
  | nil => exact List.prefix_rfl
  | cons line rest ih =>
    simp only [carriedOut, List.cons_prefix_cons, true_and]
    split
    · split
      · exact List.nil_prefix
      · exact ih _
    · exact List.nil_prefix

variable {seg : List Line} {notes : Notes}

/-- A first line that is no menu is carried out before the lines behind it are played. -/
private theorem exists_carry_of_playFrom {line : Line} (hmenu : menu? line = none)
    (hplay : (playFrom carry 0 notes (line :: seg)).exec w = (.ok true, w')) :
    ∃ won v notes', (carry line).exec w = (.ok won, v) ∧ won ≠ some false ∧
      (playFrom carry 0 notes' seg).exec v = (.ok true, w') := by
  simp only [playFrom, hmenu, exec_bind, exec_traced] at hplay
  rcases hcarry : (carry line).exec w with ⟨f | won, v⟩ <;> rw [hcarry] at hplay
  · cases hplay
  · simp only at hplay
    -- a lost fight ends the story, which did not come to its end then
    by_cases hlost : won = some false
    · rw [if_pos hlost] at hplay
      cases hplay
    · rw [if_neg hlost] at hplay
      exact ⟨won, v, _, rfl, hlost, hplay⟩

/-- Plain lines that come to their end when they are played are all `carriedOut`. -/
private theorem carriedOut_of_exec_eq (hplain : ∀ line ∈ seg, IsPlain line)
    (hplay : (playFrom carry 0 notes seg).exec w = (.ok true, w')) (post : List Line) :
    carriedOut carry (seg ++ post) w = seg ++ carriedOut carry post w' := by
  induction seg generalizing notes w with
  | nil =>
    cases hplay
    rfl
  | cons line seg ih =>
    obtain ⟨won, v, notes', hcarry, hlost, hseg⟩ :=
      exists_carry_of_playFrom (hplain line List.mem_cons_self).1 hplay
    have hrest := ih (fun l hl => hplain l (List.mem_cons_of_mem _ hl)) hseg
    simp only [List.cons_append, carriedOut, hcarry, hlost, if_false, hrest]

/-- Plain lines that do not come to their end when they are played are all that is `carriedOut`. -/
private theorem carriedOut_of_exec_ne (hplain : ∀ line ∈ seg, IsPlain line)
    (hplay : ((playFrom carry 0 notes seg).exec w).1 ≠ .ok true) (post : List Line) :
    carriedOut carry (seg ++ post) w <+: seg := by
  induction seg generalizing notes w with
  | nil => exact absurd rfl hplay
  | cons line seg ih =>
    simp only [playFrom, (hplain line List.mem_cons_self).1, exec_bind, exec_traced] at hplay
    simp only [List.cons_append, carriedOut, List.cons_prefix_cons, true_and]
    -- the line fails, it is a lost fight, or the lines behind it do not come to their end
    rcases hcarry : (carry line).exec w with ⟨f | won, v⟩ <;> rw [hcarry] at hplay
    · exact List.nil_prefix
    · simp only at hplay ⊢
      by_cases hlost : won = some false
      · rw [if_pos hlost]
        exact List.nil_prefix
      · rw [if_neg hlost] at hplay ⊢
        exact ih (fun l hl => hplain l (List.mem_cons_of_mem _ hl)) hplay

/-! ## The machine on lines without menus -/

/-- The deeds of handing over so many lines from line `i` on. -/
def carriedFrom (i count : Nat) : List Deed := (List.range' i count).map .carried

private theorem carriedFrom_succ (i count : Nat) :
    carriedFrom i (count + 1) = .carried i :: carriedFrom (i + 1) count := by
  simp [carriedFrom, List.range'_succ]

/-- The deeds of handing over the first lines of a stretch have `handed` these lines over. -/
private theorem handed_carriedFrom {part : List Line} (h : part <+: lines.drop i) :
    handed lines (carriedFrom i part.length) = part := by
  induction part generalizing i with
  | nil => rfl
  | cons line part ih =>
    obtain ⟨rest, hrest⟩ := h
    obtain ⟨hline, hdrop⟩ := getElem?_of_drop_eq_cons hrest.symm
    have hpart := ih ⟨rest, hdrop.symm⟩
    simp only [handed] at hpart
    simp only [List.length_cons, carriedFrom_succ, handed, List.filterMap_cons, hline, hpart]

/-- A line that is handed over, before a run that hands over others. -/
private theorem exists_runs_of_carry {place next : Place} {line : Line} {part : List Line}
    (haction : action lines place = .carry i line next)
    (hnext : ∀ v, ∃ out, Runs carry lines next v
      (carriedFrom (i + 1) (carriedOut carry part v).length) out) :
    ∃ out,
      Runs carry lines place w (carriedFrom i (carriedOut carry (line :: part) w).length) out := by
  have hstep : (step carry lines place).exec w = _ := exec_step_carry haction
  have hdeeds : (action lines place).deeds = [.carried i] := by rw [haction]; rfl
  simp only [carriedOut, List.length_cons, carriedFrom_succ]
  -- the line fails, or is a fight that is lost, or the rest goes on
  rcases hcarry : (carry line).exec w with ⟨f | won, v⟩ <;> rw [hcarry] at hstep
  · have hrun := Runs.fault hstep
    rw [hdeeds] at hrun
    exact ⟨_, hrun⟩
  · simp only at hstep ⊢
    by_cases hlost : won = some false
    · rw [if_pos hlost] at hstep ⊢
      have hrun := Runs.done hstep
      rw [hdeeds] at hrun
      exact ⟨_, hrun⟩
    · rw [if_neg hlost] at hstep ⊢
      obtain ⟨out, hout⟩ := hnext v
      have hrun := Runs.go hstep hout
      rw [hdeeds] at hrun
      exact ⟨_, hrun⟩

variable (carry) in
/-- Behind the last line the machine ends, and nothing more is done. -/
theorem runs_of_drop_eq_nil (hdrop : lines.drop i = []) (w : World) :
    Runs carry lines (.top i) w [] (.ok true, w) := by
  have haction : action lines (.top i) = .stop := by
    simp only [action, getElem?_of_drop_eq_nil hdrop]
  have hstep : (step carry lines (.top i)).exec w = _ := exec_step_stop haction
  have hrun := Runs.done hstep
  rw [haction] at hrun
  exact hrun

variable (carry) in
/-- Outside of blocks the machine hands over all lines up to the end of the story, if there is no
    menu among them. -/
private theorem exists_runs_top {rest : List Line} (hdrop : lines.drop i = rest)
    (hmenu : ∀ line ∈ rest, menu? line = none) (w : World) :
    ∃ out, Runs carry lines (.top i) w (carriedFrom i (carriedOut carry rest w).length) out := by
  induction rest generalizing i w with
  | nil => exact ⟨_, runs_of_drop_eq_nil carry hdrop w⟩
  | cons line rest ih =>
    -- no line is a menu, so each is carried out in its turn
    obtain ⟨hline, hrest⟩ := getElem?_of_drop_eq_cons hdrop
    have haction : action lines (.top i) = .carry i line (.top (i + 1)) := by
      simp only [action, hline, hmenu line List.mem_cons_self]
    exact exists_runs_of_carry haction fun v =>
      ih hrest (fun l hl => hmenu l (List.mem_cons_of_mem _ hl)) v

variable (carry) in
/-- In a block the machine does the same: at the end of the block it goes on outside of it. -/
theorem exists_runs_block {rest : List Line} (hdrop : lines.drop i = rest)
    (hmenu : ∀ line ∈ rest, menu? line = none) (w : World) :
    ∃ out, Runs carry lines (.block i) w (carriedFrom i (carriedOut carry rest w).length) out := by
  -- where the block ends, the machine leaves it and goes on as before
  have hleave (i : Nat) (rest : List Line) (hdrop : lines.drop i = rest)
      (hmenu : ∀ line ∈ rest, menu? line = none) (w : World)
      (haction : action lines (.block i) = .pass (.top i)) :
      ∃ out, Runs carry lines (.block i) w
        (carriedFrom i (carriedOut carry rest w).length) out := by
    obtain ⟨out, hout⟩ := exists_runs_top carry hdrop hmenu w
    have hrun := Runs.go (exec_step_pass haction) hout
    rw [haction] at hrun
    exact ⟨out, hrun⟩
  induction rest generalizing i w with
  | nil =>
    refine hleave i [] hdrop hmenu w ?_
    simp only [action, getElem?_of_drop_eq_nil hdrop]
  | cons line rest ih =>
    obtain ⟨hline, hrest⟩ := getElem?_of_drop_eq_cons hdrop
    by_cases hheader : (header? line).isSome = true
    · refine hleave i _ hdrop hmenu w ?_
      simp only [action, hline, hheader, if_true]
    · have haction : action lines (.block i) = .carry i line (.block (i + 1)) := by
        simp only [action, hline, hheader, Bool.false_eq_true, if_false]
      exact exists_runs_of_carry haction fun v =>
        ih hrest (fun l hl => hmenu l (List.mem_cons_of_mem _ hl)) v

/-- Lines without a menu that come to their end when they are played are handed over, and then the
    machine goes on behind them. -/
theorem Runs.through {post : List Line} (hdrop : lines.drop i = seg ++ post)
    (hmenus : ∀ line ∈ seg, menu? line = none)
    (hplay : (playFrom carry 0 notes seg).exec w = (.ok true, w')) {deeds : List Deed}
    {out : Except Fault Bool × World}
    (hrest : Runs carry lines (.top (i + seg.length)) w' deeds out) :
    Runs carry lines (.top i) w (carriedFrom i seg.length ++ deeds) out := by
  induction seg generalizing i notes w with
  | nil =>
    cases hplay
    exact hrest
  | cons line seg ih =>
    obtain ⟨hline, hseg⟩ := getElem?_of_drop_eq_cons hdrop
    have hmenu := hmenus line List.mem_cons_self
    obtain ⟨won, v, notes', hcarry, hlost, hplay⟩ := exists_carry_of_playFrom hmenu hplay
    have haction : action lines (.top i) = .carry i line (.top (i + 1)) := by
      simp only [action, hline, hmenu]
    -- the first line did not end the story, since the loops went on behind it
    have hstep : (step carry lines (.top i)).exec w = _ := exec_step_carry haction
    simp only [hcarry, hlost, if_false] at hstep
    rw [List.length_cons, show i + (seg.length + 1) = i + 1 + seg.length by omega] at hrest
    have hrun := Runs.go hstep
      (ih hseg (fun l hl => hmenus l (List.mem_cons_of_mem _ hl)) hplay hrest)
    rw [haction] at hrun
    rw [List.length_cons, carriedFrom_succ]
    exact hrun

end

/-! ## The search for the chosen block -/

/-- What a `heading` means for the search for a block. -/
private theorem verdict_heading {number k j : Nat} (hdigits : number < Whole.limit) :
    verdict k (heading number, j) = if number = k then some (.ok j) else none := by
  have hlen : (Nat.toDigits 10 number).length ≤ Whole.maxDigits :=
    (Whole.length_toDigits_le_iff number).2 hdigits
  simp only [verdict, header?_heading, Nat.not_lt.2 hlen, if_false, Text.numeral_toDigits]

/-- No line that is not a header decides a search. -/
theorem findSome?_verdict_plain {block : List Line} {k : Nat}
    (hheader : ∀ line ∈ block, header? line = none) (i : Nat) :
    (block.zipIdx i).findSome? (verdict k) = none := by
  refine List.findSome?_eq_none_iff.2 fun ⟨line, j⟩ hmem => ?_
  simp only [verdict, hheader line (List.fst_mem_of_mem_zipIdx hmem)]

/-- The search for a block finds it among `numbered` blocks, whatever stands before and behind
    it. -/
theorem exists_findSome?_numbered {lines : List Line} {before after : List (List Line)}
    {block : List Line} {number i : Nat} (hdigits : number + before.length < Whole.limit)
    (hplain : ∀ b ∈ before, ∀ line ∈ b, IsPlain line)
    (hdrop : lines.drop i = numbered number (before ++ block :: after)) :
    ∃ j, ((lines.drop i).zipIdx i).findSome? (verdict (number + before.length)) = some (.ok j) ∧
      lines.drop (j + 1) = block ++ numbered (number + before.length + 1) after := by
  induction before generalizing number i with
  | nil =>
    refine ⟨i, ?_, (getElem?_of_drop_eq_cons hdrop).2⟩
    rw [hdrop, List.nil_append, numbered, List.zipIdx_cons, List.findSome?_cons,
      verdict_heading (by simpa using hdigits)]
    simp
  | cons b before ih =>
    have hrest := (getElem?_of_drop_eq_cons hdrop).2
    have hnext : lines.drop (i + 1 + b.length) =
        numbered (number + 1) (before ++ block :: after) := by
      rw [← List.drop_drop, hrest]
      exact List.drop_left
    rw [List.length_cons] at hdigits ⊢
    have hk : number + (before.length + 1) = number + 1 + before.length := by omega
    obtain ⟨j, hfind, hj⟩ := ih (by omega)
      (fun c hc => hplain c (List.mem_cons_of_mem _ hc)) hnext
    refine ⟨j, ?_, by rw [hk]; exact hj⟩
    -- neither the header nor the lines of the first block decide
    have hheading : verdict (number + 1 + before.length) (heading number, i) = none := by
      rw [verdict_heading (by omega), if_neg (by omega)]
    rw [hdrop, List.cons_append, numbered, List.zipIdx_cons, List.findSome?_cons, hk, hheading,
      List.zipIdx_append, List.findSome?_append,
      findSome?_verdict_plain fun line hl => (hplain b List.mem_cons_self line hl).2,
      Option.none_or]
    rw [hnext] at hfind
    exact hfind

/-- A reply that chooses an option has its number, which has not too many digits. -/
private theorem range_of_replyTo {options : List String} {answer option : String} {k : Nat}
    (h : Menu.replyTo options answer = .chosen k option) :
    1 ≤ k ∧ k ≤ options.length ∧ k < Whole.limit := by
  unfold Menu.replyTo at h
  split at h
  · cases h
  · rename_i n hread
    split at h
    · rename_i hn
      split at h
      · rename_i hoption
        cases h
        -- there is an option at the place before `k`
        obtain ⟨hlt, -⟩ := List.getElem?_eq_some_iff.1 hoption
        exact ⟨by omega, by omega, Whole.lt_of_read hread⟩
      · cases h
    · cases h

/-- A number that was chosen from a menu is that of an option, and has not too many digits. -/
private theorem range_of_choose {options : List String} {w w' : World} {k : Nat}
    (h : (Menu.choose options).exec w = (.ok (some k), w')) :
    1 ≤ k ∧ k ≤ options.length ∧ k < Whole.limit := by
  unfold Menu.choose at h
  split at h
  · obtain ⟨_, v, -, h⟩ := exists_of_exec_bind h
    cases h
  · obtain ⟨_, v, -, h⟩ := exists_of_exec_bind h
    obtain ⟨_, v, -, h⟩ := exists_of_exec_bind h
    obtain ⟨k', h, hk⟩ := exists_of_exec_map h
    cases hk
    rw [exec_repeatTurn] at h
    -- the number comes from the last turn
    obtain ⟨v, h⟩ := exists_exec_of_untilResult h
    obtain ⟨answer, v, -, h⟩ := exists_of_exec_bind h
    cases hreply : Menu.replyTo options answer with
    | chosen number option =>
      rw [hreply] at h
      obtain ⟨_, v, -, h⟩ := exists_of_exec_bind h
      cases h
      exact range_of_replyTo hreply
    | outside =>
      rw [hreply] at h
      obtain ⟨_, v, -, h⟩ := exists_of_exec_bind h
      cases h
    | noNumber =>
      rw [hreply] at h
      obtain ⟨_, v, -, h⟩ := exists_of_exec_bind h
      cases h

/-! ## What is handed over after a choice -/

/-- There is no menu among `numbered` blocks of plain lines. -/
private theorem menu?_of_mem_numbered {blocks : List (List Line)} {number : Nat}
    (hplain : ∀ block ∈ blocks, ∀ line ∈ block, IsPlain line) :
    ∀ line ∈ numbered number blocks, menu? line = none := by
  induction blocks generalizing number with
  | nil => simp [numbered]
  | cons block blocks ih =>
    intro line hmem
    -- the heading, a line of the block, or a line of a later block
    rcases List.mem_cons.1 hmem with rfl | hmem
    · exact menu?_heading number
    · rcases List.mem_append.1 hmem with hmem | hmem
      · exact (hplain block List.mem_cons_self line hmem).1
      · exact ih (fun b hb => hplain b (List.mem_cons_of_mem _ hb)) line hmem

/-- Only lines of the first block are `carriedOut` exactly if there is no other one behind it, or it
    does not come to its end. -/
private theorem forall_mem_carriedOut_iff {chosen : List Line} {after : List (List Line)}
    {number : Nat}
    {w : World} (notes : Notes) (hplain : ∀ line ∈ chosen, IsPlain line) :
    (∀ line ∈ carriedOut Command.run (chosen ++ numbered number after) w, line ∈ chosen) ↔
      after = [] ∨ ((play notes chosen).exec w).1 ≠ .ok true := by
  constructor
  · intro hall
    by_contra hnot
    obtain ⟨hafter, hplay⟩ := not_or.1 hnot
    obtain ⟨block, blocks, rfl⟩ := List.exists_cons_of_ne_nil hafter
    -- the header of the block behind is handed over
    have hend : (play notes chosen).exec w = (.ok true, ((play notes chosen).exec w).2) :=
      Prod.ext (not_not.1 hplay) rfl
    have hout := carriedOut_of_exec_eq hplain hend (numbered number (block :: blocks))
    have hmem : heading number ∈ chosen := by
      refine hall _ ?_
      rw [hout]
      simp [numbered, carriedOut]
    have hheader := (hplain _ hmem).2
    rw [header?_heading] at hheader
    cases hheader
  · rintro (rfl | hplay) line hmem
    · rw [numbered, List.append_nil] at hmem
      exact (carriedOut_isPrefix _ _).subset hmem
    · exact (carriedOut_of_exec_ne hplain hplay _).subset hmem

/-- The blocks before an option's block, the block, and those behind it. -/
private theorem blocks_eq_append {blocks : List (List Line)} {k : Nat} (hpos : 1 ≤ k)
    (hle : k ≤ blocks.length) :
    blocks = blocks.take (k - 1) ++ blocks.getD (k - 1) [] :: blocks.drop k := by
  have hlt : k - 1 < blocks.length := by omega
  have hget : blocks.getD (k - 1) [] = blocks[k - 1] := by
    simp [List.getD_eq_getElem?_getD, hlt]
  have hdrop := List.drop_eq_getElem_cons hlt
  rw [Nat.sub_add_cancel hpos] at hdrop
  rw [hget, ← hdrop, List.take_append_drop]

private theorem getD_mem_blocks {blocks : List (List Line)} {k : Nat} (hpos : 1 ≤ k)
    (hle : k ≤ blocks.length) : blocks.getD (k - 1) [] ∈ blocks := by
  have hmem : blocks.getD (k - 1) [] ∈
      blocks.take (k - 1) ++ blocks.getD (k - 1) [] :: blocks.drop k := by simp
  rwa [← blocks_eq_append hpos hle] at hmem

/-- The machine at a menu with a block for each option: it asks, and hands over the lines of the
    chosen block and everything behind it. -/
private theorem exists_runs_of_choose {lines : List Line} {i k : Nat} {menu : Line} {cs : List Char}
    {options : List String} {blocks : List (List Line)} {w w' : World}
    (hdrop : lines.drop i = menu :: numbered 1 blocks) (hmenu : menu? menu = some cs)
    (hoptions : options? cs = some options) (hblocks : blocks.length = options.length)
    (hplain : ∀ block ∈ blocks, ∀ line ∈ block, IsPlain line)
    (hchoice : (Menu.choose options).exec w = (.ok (some k), w')) :
    ∃ after out, Runs Command.run lines (.top i) w (.asked i :: after) out ∧
      handed lines after =
        carriedOut Command.run (blocks.getD (k - 1) [] ++ numbered (k + 1) (blocks.drop k)) w' := by
  obtain ⟨hpos, hle, hdigits⟩ := range_of_choose hchoice
  rw [← hblocks] at hle
  have hsplit := blocks_eq_append hpos hle
  obtain ⟨hline, hrest⟩ := getElem?_of_drop_eq_cons hdrop
  -- the search finds the chosen block
  have hk : 1 + (blocks.take (k - 1)).length = k := by
    rw [List.length_take]
    omega
  obtain ⟨j, hfind, hj⟩ := exists_findSome?_numbered (by rw [hk]; exact hdigits)
    (fun b hb => hplain b (List.mem_of_mem_take hb)) (hrest.trans (congrArg (numbered 1) hsplit))
  rw [hk] at hfind hj
  -- there is no other menu behind it
  have hchosen := getD_mem_blocks hpos hle
  obtain ⟨out, hafter⟩ := exists_runs_block Command.run hj (fun line hmem => by
    rcases List.mem_append.1 hmem with hmem | hmem
    · exact (hplain _ hchosen line hmem).1
    · exact menu?_of_mem_numbered (fun b hb => hplain b (List.mem_of_mem_drop hb)) line hmem) w'
  have haction : action lines (.top i) = .ask i options := by
    simp only [action, hline, hmenu, hoptions]
  have hstep : (step Command.run lines (.top i)).exec w = (.ok (.go (.block (j + 1))), w') := by
    rw [exec_step_ask haction, hchoice]
    simp only [target, hfind, afterSearch]
  have hrun := Runs.go hstep hafter
  rw [haction] at hrun
  exact ⟨_, out, hrun, handed_carriedFrom (hj ▸ carriedOut_isPrefix _ w')⟩

/-- A story with a block for each option of its menu, run as a whole: after a choice the lines of
    the chosen block are handed over, and then everything behind it. -/
private theorem exists_storyRuns_of_choose {name : String} {w w₀ w₁ w₂ : World} {notes : Notes}
    {before : List Line} {menu : Line} {cs : List Char} {options : List String}
    {blocks : List (List Line)} {k : Nat}
    (hopen : (openStory name).exec w =
      (.ok (some (notes, before ++ menu :: numbered 1 blocks)), w₀))
    (hmenu : menu? menu = some cs) (hoptions : options? cs = some options)
    (hblocks : blocks.length = options.length) (hbefore : ∀ line ∈ before, IsPlain line)
    (hplain : ∀ block ∈ blocks, ∀ line ∈ block, IsPlain line)
    (hplay : (play notes before).exec w₀ = (.ok true, w₁))
    (hchoice : (Menu.choose options).exec w₁ = (.ok (some k), w₂)) :
    ∃ after,
      StoryRuns name w (carriedFrom 0 before.length ++ .asked before.length :: after)
        ((run name).exec w) ∧
      handed (before ++ menu :: numbered 1 blocks) after =
        carriedOut Command.run (blocks.getD (k - 1) [] ++ numbered (k + 1) (blocks.drop k)) w₂ := by
  have hdrop : (before ++ menu :: numbered 1 blocks).drop before.length =
      menu :: numbered 1 blocks := List.drop_left
  obtain ⟨after, out, hasked, hhanded⟩ :=
    exists_runs_of_choose hdrop hmenu hoptions hblocks hplain hchoice
  have hruns := Runs.through (i := 0) (List.drop_zero ..) (fun l hl => (hbefore l hl).1) hplay
    (by rw [Nat.zero_add]; exact hasked)
  have hstory : StoryRuns name w (carriedFrom 0 before.length ++ .asked before.length :: after)
      (out.1.map some, out.2) := by
    unfold StoryRuns
    rw [hopen]
    exact ⟨out, hruns, rfl⟩
  -- it ends as the loops do, since there is only one run
  obtain ⟨_, -, hrun⟩ := exists_storyRuns name w
  obtain ⟨-, hout⟩ := hstory.unique hrun
  exact ⟨after, hout ▸ hstory, hhanded⟩

/-- After a choice the lines of the chosen block are handed over, and then everything behind it: the
    headers and the lines of all later blocks, until a fight is lost or a line fails. So only lines
    of the chosen block are handed over exactly if it is the last block, or the story does not come
    to the end of it. -/
theorem handed_after_choice_iff {name : String} {w w₀ w₁ w₂ : World} {notes : Notes}
    {before : List Line} {menu : Line} {cs : List Char} {options : List String}
    {blocks : List (List Line)} {k : Nat}
    (hopen : (openStory name).exec w =
      (.ok (some (notes, before ++ menu :: numbered 1 blocks)), w₀))
    (hmenu : menu? menu = some cs) (hoptions : options? cs = some options)
    (hblocks : blocks.length = options.length) (hbefore : ∀ line ∈ before, IsPlain line)
    (hplain : ∀ block ∈ blocks, ∀ line ∈ block, IsPlain line)
    (hplay : (play notes before).exec w₀ = (.ok true, w₁))
    (hchoice : (Menu.choose options).exec w₁ = (.ok (some k), w₂)) :
    ∃ after,
      StoryRuns name w (carriedFrom 0 before.length ++ .asked before.length :: after)
        ((run name).exec w) ∧
      handed (before ++ menu :: numbered 1 blocks) after =
        carriedOut Command.run (blocks.getD (k - 1) [] ++ numbered (k + 1) (blocks.drop k)) w₂ ∧
      ((∀ line ∈ handed (before ++ menu :: numbered 1 blocks) after,
          line ∈ blocks.getD (k - 1) []) ↔
        k = blocks.length ∨ ((play notes (blocks.getD (k - 1) [])).exec w₂).1 ≠ .ok true) := by
  obtain ⟨hpos, hle, -⟩ := range_of_choose hchoice
  rw [← hblocks] at hle
  have hchosen := hplain _ (getD_mem_blocks hpos hle)
  obtain ⟨after, hstory, hhanded⟩ :=
    exists_storyRuns_of_choose hopen hmenu hoptions hblocks hbefore hplain hplay hchoice
  refine ⟨after, hstory, hhanded, ?_⟩
  -- there is no block behind the chosen one exactly if it is the last
  rw [hhanded, forall_mem_carriedOut_iff notes hchosen, List.drop_eq_nil_iff]
  exact or_congr_left ⟨fun h => by omega, fun h => by omega⟩

/-! ## A story of two blocks -/

/-- The menu of a story with two options. -/
@[irreducible] def twoOptions : Line := "select(a, b)".toList

/-- A block for each of the two options. -/
@[irreducible] def twoBlocks : List (List Line) :=
  [["player(1, 1)".toList], ["player(2, 2)".toList]]

/-- A world with a file that holds the menu and the blocks, and a player who takes the first. -/
@[irreducible] def firstOfTwo : World where
  disk := { entries := [("games", .folder [("g.txr", .file (Text.Utf8.encode
    "select(a, b)\n1:\nplayer(1, 1)\n2:\nplayer(2, 2)\n".toList))])] }
  console := { answers := [.line "1"] }

/-- The world in which the menu of the story is shown. -/
@[irreducible] def firstOfTwoOpen : World := ((openStory "g.txr").exec firstOfTwo).2

/-- The world after the choice. -/
@[irreducible] def firstOfTwoChosen : World := ((Menu.choose ["a", "b"]).exec firstOfTwoOpen).2

/-- The lines of a story that was opened, from the outcome without its notes. -/
private theorem exists_notes_of_toOption {name : String} {w : World} {lines : List Line}
    (h : ((openStory name).exec w).1.toOption.map (Option.map Prod.snd) = some (some lines)) :
    ∃ notes, (openStory name).exec w =
      (.ok (some (notes, lines)), ((openStory name).exec w).2) := by
  rcases hp : (openStory name).exec w with ⟨f | (_ | ⟨notes, lines'⟩), w'⟩ <;> rw [hp] at h <;>
    cases h
  exact ⟨notes, rfl⟩

private theorem exec_open_firstOfTwo : ∃ notes, (openStory "g.txr").exec firstOfTwo =
    (.ok (some (notes, [] ++ twoOptions :: numbered 1 twoBlocks)), firstOfTwoOpen) := by
  unfold firstOfTwoOpen
  exact exists_notes_of_toOption (by decide +kernel)

private theorem exec_choose_firstOfTwo :
    (Menu.choose ["a", "b"]).exec firstOfTwoOpen = (.ok (some 1), firstOfTwoChosen) := by
  unfold firstOfTwoChosen
  exact exec_of_toOption (by decide +kernel)

theorem menu?_twoOptions : menu? twoOptions = some "a, b)".toList := by decide +kernel

theorem options?_twoOptions : options? "a, b)".toList = some ["a", "b"] := by decide +kernel

private theorem isPlain_of_mem_twoBlocks : ∀ block ∈ twoBlocks, ∀ line ∈ block, IsPlain line := by
  decide +kernel

theorem handed_after_first_of_two : ∃ notes after,
    (openStory "g.txr").exec firstOfTwo =
      (.ok (some (notes, [] ++ twoOptions :: numbered 1 twoBlocks)), firstOfTwoOpen) ∧
    (Menu.choose ["a", "b"]).exec firstOfTwoOpen = (.ok (some 1), firstOfTwoChosen) ∧
    StoryRuns "g.txr" firstOfTwo (carriedFrom 0 0 ++ .asked 0 :: after)
      ((run "g.txr").exec firstOfTwo) ∧
    ((∀ line ∈ handed ([] ++ twoOptions :: numbered 1 twoBlocks) after,
        line ∈ twoBlocks.getD (1 - 1) []) ↔
      1 = twoBlocks.length ∨
        ((play notes (twoBlocks.getD (1 - 1) [])).exec firstOfTwoChosen).1 ≠ .ok true) := by
  obtain ⟨notes, hopen⟩ := exec_open_firstOfTwo
  obtain ⟨after, hstory, -, hiff⟩ := handed_after_choice_iff hopen menu?_twoOptions
    options?_twoOptions (by decide +kernel) (by simp) isPlain_of_mem_twoBlocks rfl
    exec_choose_firstOfTwo
  exact ⟨notes, after, hopen, exec_choose_firstOfTwo, hstory, hiff⟩

/-- The first block is chosen, and the lines of the second one are handed over behind it. -/
theorem second_block_handed_over : ∃ after,
    StoryRuns "g.txr" firstOfTwo (.asked 0 :: after) ((run "g.txr").exec firstOfTwo) ∧
    (Menu.choose ["a", "b"]).exec firstOfTwoOpen = (.ok (some 1), firstOfTwoChosen) ∧
    handed (twoOptions :: numbered 1 twoBlocks) after =
      ["player(1, 1)".toList, "2:".toList, "player(2, 2)".toList] ∧
    "player(2, 2)".toList ∉ twoBlocks.getD 0 [] ∧
    ((run "g.txr").exec firstOfTwo).2.game.player = ⟨2, 2⟩ := by
  obtain ⟨notes, hopen⟩ := exec_open_firstOfTwo
  obtain ⟨after, hstory, hhanded⟩ := exists_storyRuns_of_choose hopen menu?_twoOptions
    options?_twoOptions (by decide +kernel) (by simp) isPlain_of_mem_twoBlocks rfl
    exec_choose_firstOfTwo
  have hout : carriedOut Command.run
      (twoBlocks.getD (1 - 1) [] ++ numbered (1 + 1) (twoBlocks.drop 1)) firstOfTwoChosen =
      ["player(1, 1)".toList, "2:".toList, "player(2, 2)".toList] := by decide +kernel
  exact ⟨after, hstory, exec_choose_firstOfTwo, hhanded.trans hout, by decide +kernel,
    by decide +kernel⟩

end Gamebook.Story

import Gamebook.Proofs.Exec
import Gamebook.Proofs.Numeral
import Gamebook.Story
import Mathlib.Data.List.TakeDrop

/-!
# Stories as a flat machine

A story is played in loops, one inside the other, that share the place in the story. The same is
done by a machine without any loop: it stands before a line, outside of blocks or in a block, and
`step` says from there what it does and where it goes. `Runs` follows the machine to its end, and
keeps the deeds on the way: the menus shown, and the lines handed over to be carried out.

The way in which a line is carried out is a parameter, `carry`. That the loops and the machine agree
for every `carry` means that they hand over the same lines, in the same order.

## Key results

- `ends_playFrom`: the loops end as the machine does
- `Runs.ordered`: the machine hands over every line at most once, from the first to the last
- `run_agrees_with_machine`: a whole story, with the opening of its file
-/

namespace Gamebook.Story

open Play

/-! ## The machine -/

/-- Where the machine stands: before a line outside of blocks, or before a line of a block. Lines
    are counted from 0. -/
inductive Place where
  | top (i : Nat)
  | block (i : Nat)
  deriving DecidableEq, Repr

/-- The line before which the machine stands. -/
def Place.index : Place → Nat
  | .top i => i
  | .block i => i

/-- What there is to do at a place. -/
inductive Action where
  /-- The story is over. -/
  | stop
  /-- The machine goes on to another place. -/
  | pass (next : Place)
  /-- Line `i` is a menu to show. -/
  | ask (i : Nat) (options : List String)
  /-- Line `i` is to be carried out, and then the machine goes on to another place. -/
  | carry (i : Nat) (line : Line) (next : Place)

/-- What there is to do at a place of a story. -/
def action (lines : List Line) : Place → Action
  | .top i =>
    match lines[i]? with
    | none => .stop
    | some line =>
      match menu? line with
      | none => .carry i line (.top (i + 1))
      | some cs =>
        match options? cs with
        | none => .pass (.top (i + 1))
        | some options => .ask i options
  | .block i =>
    match lines[i]? with
    | none => .pass (.top i)
    | some line =>
      if (header? line).isSome then .pass (.top i) else .carry i line (.block (i + 1))

/-- What line `j` means for the search for the header of a block: it is the header, or it is one
    with too many digits, or the search goes on. -/
def verdict (number : Nat) : Line × Nat → Option (Except Fault Nat)
  | (line, j) =>
    match header? line with
    | none => none
    | some digits =>
      if Whole.maxDigits < digits.length then some (.error (.numberTooLong digits.length))
      else if Text.numeral digits 0 = number then some (.ok j)
      else none

/-- The first header of a block after line `i`, unless there is none or one with too many digits
    comes before it. -/
def target (lines : List Line) (i number : Nat) : Option (Except Fault Nat) :=
  ((lines.drop (i + 1)).zipIdx (i + 1)).findSome? (verdict number)

/-- What follows a step of the machine: another one, or the end of the story. -/
inductive Next where
  | go (place : Place)
  | done (won : Bool)
  deriving DecidableEq, Repr

/-- Something that the machine has done. -/
inductive Deed where
  /-- The menu on this line was shown. -/
  | asked (i : Nat)
  /-- This line was handed over to be carried out. -/
  | carried (i : Nat)
  deriving DecidableEq, Repr

/-- The line that a deed is about. -/
def Deed.index : Deed → Nat
  | .asked i => i
  | .carried i => i

/-- The deeds of an action. -/
def Action.deeds : Action → List Deed
  | .stop => []
  | .pass _ => []
  | .ask i _ => [.asked i]
  | .carry i _ _ => [.carried i]

section

-- How a line is carried out, and whether it was a fight that was won.
variable (carry : Line → Play (Option Bool)) (lines : List Line)

/-- A step of the machine. -/
def step (place : Place) : Play Next := do
  match action lines place with
  | .stop => return .done true
  | .pass next => return .go next
  | .ask i options =>
    match ← Menu.choose options with
    | none => return .go (.top (i + 1))
    | some number =>
      match target lines i number with
      | none => return .done true
      | some (.ok j) => return .go (.block (j + 1))
      | some (.error f) => fail f
  | .carry _ line next =>
    if (← carry line) = some false then return .done false else return .go next

/-- The machine runs from a place in a world to its end, with these deeds and this outcome. -/
inductive Runs : Place → World → List Deed → Except Fault Bool × World → Prop where
  | done {place : Place} {w w' : World} {won : Bool}
      (h : (step carry lines place).exec w = (.ok (.done won), w')) :
      Runs place w (action lines place).deeds (.ok won, w')
  | fault {place : Place} {w w' : World} {f : Fault}
      (h : (step carry lines place).exec w = (.error f, w')) :
      Runs place w (action lines place).deeds (.error f, w')
  | go {place next : Place} {w w' : World} {deeds : List Deed} {out : Except Fault Bool × World}
      (h : (step carry lines place).exec w = (.ok (.go next), w')) (rest : Runs next w' deeds out) :
      Runs place w ((action lines place).deeds ++ deeds) out

/-- The machine ends with an outcome, whatever its deeds are. -/
def Ends (place : Place) (w : World) (out : Except Fault Bool × World) : Prop :=
  ∃ deeds, Runs carry lines place w deeds out

end

/-! ## One step -/

section

variable {carry : Line → Play (Option Bool)} {lines : List Line} {place next : Place} {i : Nat}
  {w w' : World} {out : Except Fault Bool × World}

theorem exec_step_stop (h : action lines place = .stop) :
    (step carry lines place).exec w = (.ok (.done true), w) := by
  simp only [step, h, exec_pure]

theorem exec_step_pass (h : action lines place = .pass next) :
    (step carry lines place).exec w = (.ok (.go next), w) := by
  simp only [step, h, exec_pure]

/-- A `step` that carries a line out ends the story only if a fight is lost. -/
theorem exec_step_carry {line : Line} (h : action lines place = .carry i line next) :
    (step carry lines place).exec w =
      match (carry line).exec w with
      | (.ok won, w') => (.ok (if won = some false then .done false else .go next), w')
      | (.error f, w') => (.error f, w') := by
  simp only [step, h, exec_bind]
  rcases (carry line).exec w with ⟨f | won, w'⟩
  · rfl
  · simp only
    split <;> rfl

/-- Where a search leads: to a block, to the end of the story, or to a fault. -/
def afterSearch : Option (Except Fault Nat) → Except Fault Next
  | none => .ok (.done true)
  | some (.ok j) => .ok (.go (.block (j + 1)))
  | some (.error f) => .error f

/-- A `step` at a menu goes to the chosen block, if the search finds it. -/
theorem exec_step_ask {options : List String} (h : action lines place = .ask i options) :
    (step carry lines place).exec w =
      match (Menu.choose options).exec w with
      | (.ok none, w') => (.ok (.go (.top (i + 1))), w')
      | (.ok (some number), w') => (afterSearch (target lines i number), w')
      | (.error f, w') => (.error f, w') := by
  simp only [step, h, exec_bind]
  rcases (Menu.choose options).exec w with ⟨f | number, w'⟩
  · rfl
  · cases number with
    | none => rfl
    | some number =>
      simp only
      rcases target lines i number with _ | ⟨f | j⟩ <;> rfl

/-! ## Runs -/

/-- `Runs` holds for one row of deeds and one outcome only. -/
theorem Runs.unique {deeds deeds' : List Deed} {out' : Except Fault Bool × World}
    (h : Runs carry lines place w deeds out) (h' : Runs carry lines place w deeds' out') :
    deeds = deeds' ∧ out = out' := by
  -- each step has one outcome, and that decides how the run goes on
  induction h generalizing deeds' out' with
  | done h =>
    cases h' with
    | done h' => rw [h] at h'; cases h'; exact ⟨rfl, rfl⟩
    | fault h' => rw [h] at h'; cases h'
    | go h' _ => rw [h] at h'; cases h'
  | fault h =>
    cases h' with
    | done h' => rw [h] at h'; cases h'
    | fault h' => rw [h] at h'; cases h'; exact ⟨rfl, rfl⟩
    | go h' _ => rw [h] at h'; cases h'
  | go h _ ih =>
    cases h' with
    | done h' => rw [h] at h'; cases h'
    | fault h' => rw [h] at h'; cases h'
    | go h' rest' =>
      rw [h] at h'
      cases h'
      obtain ⟨rfl, rfl⟩ := ih rest'
      exact ⟨rfl, rfl⟩

/-- How the machine ends after a step with this outcome. -/
def Follows (carry : Line → Play (Option Bool)) (lines : List Line) :
    Except Fault Next × World → Except Fault Bool × World → Prop
  | (.ok (.done won), w), out => out = (.ok won, w)
  | (.ok (.go next), w), out => Ends carry lines next w out
  | (.error f, w), out => out = (.error f, w)

/-- How the machine ends is decided by what `Follows` its first step. -/
private theorem ends_iff :
    Ends carry lines place w out ↔ Follows carry lines ((step carry lines place).exec w) out := by
  constructor
  · rintro ⟨deeds, h⟩
    cases h with
    | done h => rw [h]; rfl
    | fault h => rw [h]; rfl
    | go h rest => rw [h]; exact ⟨_, rest⟩
  · intro h
    rcases hs : (step carry lines place).exec w with ⟨f | ⟨next | won⟩, w'⟩ <;> rw [hs] at h
    · exact h ▸ ⟨_, .fault hs⟩
    · obtain ⟨deeds, rest⟩ := h
      exact ⟨_, .go hs rest⟩
    · exact h ▸ ⟨_, .done hs⟩

end

/-! ## Lines and headers -/

/-- The first of the lines that are left is the one at this place. -/
theorem getElem?_of_drop_eq_cons {lines rest : List Line} {i : Nat} {line : Line}
    (h : lines.drop i = line :: rest) : lines[i]? = some line ∧ lines.drop (i + 1) = rest := by
  constructor
  · have hget : (lines.drop i)[0]? = lines[i + 0]? := List.getElem?_drop
    rw [← Nat.add_zero i, ← hget, h]
    rfl
  · rw [← List.drop_drop, h]
    rfl

theorem getElem?_of_drop_eq_nil {lines : List Line} {i : Nat} (h : lines.drop i = []) :
    lines[i]? = none :=
  List.getElem?_eq_none (List.drop_eq_nil_iff.1 h)

/-- The digits of a header are digits, and there are some. -/
private theorem header?_eq_some {line : Line} {digits : List Char}
    (h : header? line = some digits) :
    digits ≠ [] ∧ ∀ c ∈ digits, Text.isDigit c = true := by
  unfold header? at h
  rw [List.span_eq_takeWhile_dropWhile] at h
  split at h
  · cases h
  · rename_i ds rest hne heq
    split at h
    · cases h
      obtain ⟨htake, -⟩ := Prod.mk.inj heq
      -- the digits are those the line starts with
      refine ⟨hne, fun c hc => ?_⟩
      exact List.mem_takeWhile_imp (htake ▸ hc)
    · cases h
  · cases h

/-- The number of a header is the one that its digits spell, unless they are too many. -/
private theorem readWhole_header {line : Line} {digits : List Char}
    (h : header? line = some digits) :
    readWhole digits = if Whole.maxDigits < digits.length then .error (.numberTooLong digits.length)
      else .ok (Text.numeral digits 0) :=
  readWhole_digits (header?_eq_some h).1 (header?_eq_some h).2

/-- No header stands among the lines before the next header. -/
private theorem header?_of_mem_take_blockLength {lines : List Line} :
    ∀ line ∈ lines.take (blockLength lines), header? line = none := by
  intro line hmem
  have htake : lines.takeWhile (fun line => (header? line).isNone) =
      lines.take (blockLength lines) := List.prefix_iff_eq_take.1 ( List.takeWhile_prefix _)
  rw [← htake] at hmem
  simpa using List.mem_takeWhile_imp hmem

/-! ## The loops and the machine -/

section

variable {carry : Line → Play (Option Bool)} {lines : List Line}

/-- What the outcome of a stretch that starts at line `i` means for the story: a fight lost or a
    fault ends it, and else it goes on outside of blocks, behind the lines that are used up. -/
def Leads (carry : Line → Play (Option Bool)) (lines : List Line) (i : Nat)
    (ending : Except Fault Bool × World → Prop) : Except Fault Stretch × World → Prop
  | (.ok .lost, w) => ending (.ok false, w)
  | (.ok (.used count _), w) => ∀ out, Ends carry lines (.top (i + count)) w out → ending out
  | (.error f, w) => ending (.error f, w)

/-- A stretch with one more line at its start leads to the same. -/
theorem Leads.longer {i : Nat} {ending : Except Fault Bool × World → Prop} {p : Play Stretch}
    {w : World} (h : Leads carry lines (i + 1) ending (p.exec w)) :
    Leads carry lines i ending ((do return (← p).longer : Play Stretch).exec w) := by
  rw [exec_bind]
  rcases hp : p.exec w with ⟨f | ⟨- | ⟨count, notes⟩⟩, w'⟩ <;> rw [hp] at h
  · exact h
  · exact h
  · intro out hout
    refine h out ?_
    rwa [Nat.add_assoc, Nat.add_comm 1 count]

theorem Leads.imp {i : Nat} {ending ending' : Except Fault Bool × World → Prop}
    {result : Except Fault Stretch × World} (h : Leads carry lines i ending result)
    (himp : ∀ out, ending out → ending' out) : Leads carry lines i ending' result := by
  rcases result with ⟨f | ⟨- | ⟨count, notes⟩⟩, w⟩
  · exact himp _ h
  · exact himp _ h
  · exact fun out hout => himp _ (h out hout)

/-- `playBlock` does what the machine does in the block. -/
private theorem leads_playBlock {rest : List Line} {i : Nat} (notes : Notes) (w : World)
    (hdrop : lines.drop i = rest) :
    Leads carry lines i (Ends carry lines (.block i) w)
      ((playBlock carry notes rest).exec w) := by
  induction rest generalizing i notes w with
  | nil =>
    have haction : action lines (.block i) = .pass (.top i) := by
      simp only [action, getElem?_of_drop_eq_nil hdrop]
    intro out hout
    rw [ends_iff, exec_step_pass haction]
    exact hout
  | cons line rest ih =>
    obtain ⟨hline, hrest⟩ := getElem?_of_drop_eq_cons hdrop
    by_cases hheader : (header? line).isSome = true
    · -- the block ends here
      have haction : action lines (.block i) = .pass (.top i) := by
        simp only [action, hline, hheader, if_true]
      simp only [playBlock, hheader, if_true]
      intro out hout
      rw [ends_iff, exec_step_pass haction]
      exact hout
    · have haction : action lines (.block i) = .carry i line (.block (i + 1)) := by
        simp only [action, hline, hheader, Bool.false_eq_true, if_false]
      have hends (out) (h : Follows carry lines ((step carry lines (.block i)).exec w) out) :
          Ends carry lines (.block i) w out := ends_iff.2 h
      rw [exec_step_carry haction] at hends
      simp only [playBlock, hheader, Bool.false_eq_true, if_false, exec_bind, exec_traced]
      rcases hcarry : (carry line).exec w with ⟨f | won, w'⟩ <;> simp only [hcarry] at hends
      · exact hends _ rfl
      · -- a lost fight ends both; else both go on with the next line of the block
        by_cases hlost : won = some false
        · simp only [hlost, if_true] at hends ⊢
          exact hends _ rfl
        · simp only [hlost, if_false] at hends ⊢
          exact (ih (notes.result won).next w' hrest).longer.imp hends

/-- `seekBlock` does what the machine does after its search. -/
private theorem leads_seekBlock {rest : List Line} {i : Nat} (number skip : Nat) (notes : Notes)
    (w : World)
    (hdrop : lines.drop i = rest) (hskip : ∀ line ∈ rest.take skip, header? line = none) :
    Leads carry lines i
      (Follows carry lines (afterSearch ((rest.zipIdx i).findSome? (verdict number)), w))
      ((seekBlock carry number skip notes rest).exec w) := by
  induction rest generalizing i skip notes with
  | nil =>
    -- the search has come to the end of the story
    have haction : action lines (.top i) = .stop := by
      simp only [action, getElem?_of_drop_eq_nil hdrop]
    simp only [seekBlock]
    intro out hout
    rw [Nat.add_zero, ends_iff, exec_step_stop haction] at hout
    exact hout
  | cons line rest ih =>
    obtain ⟨-, hrest⟩ := getElem?_of_drop_eq_cons hdrop
    rw [List.zipIdx_cons, List.findSome?_cons]
    cases skip with
    | succ skip =>
      -- the loop passes over this line without a look, and the search would not have stopped at it
      have hline : header? line = none := hskip line (by simp)
      have hverdict : verdict number (line, i) = none := by simp only [verdict, hline]
      have htail : ∀ line ∈ rest.take skip, header? line = none :=
        fun l hl => hskip l (by simp [hl])
      simp only [hverdict, seekBlock]
      exact (ih skip notes.next hrest htail).longer
    | zero =>
      have hnone : ∀ line ∈ rest.take 0, header? line = none := by simp
      cases hheader : header? line with
      | none =>
        have hverdict : verdict number (line, i) = none := by simp only [verdict, hheader]
        simp only [hverdict, seekBlock, hheader]
        exact (ih 0 notes.next hrest hnone).longer
      | some digits =>
        simp only [seekBlock, hheader, exec_bind, exec_traced, exec_orThrow,
          readWhole_header hheader]
        -- the number of a header is too long, or it is the one looked for, or another one
        by_cases hlong : Whole.maxDigits < digits.length
        · have hverdict : verdict number (line, i) =
              some (.error (.numberTooLong digits.length)) := by
            simp only [verdict, hheader, hlong, if_true]
          simp only [hverdict, hlong, if_true]
          rfl
        · by_cases heq : Text.numeral digits 0 = number
          · have hverdict : verdict number (line, i) = some (.ok i) := by
              simp only [verdict, hheader, hlong, heq, if_true, if_false]
            simp only [hverdict, hlong, heq, if_true, if_false]
            exact (leads_playBlock _ w hrest).longer
          · -- another block: the loop passes over it line by line, or at once
            have hverdict : verdict number (line, i) = none := by
              simp only [verdict, hheader, hlong, heq, if_false]
            have hne : ¬ ((Text.numeral digits 0 : Int) = number) := by exact_mod_cast heq
            simp only [hverdict, hlong, hne, if_false]
            refine Leads.longer (ih _ _ hrest ?_)
            split
            · exact header?_of_mem_take_blockLength
            · exact hnone

/-- The loops through a story end as the machine does. -/
theorem ends_playFrom {rest : List Line} {i : Nat} (skip : Nat) (notes : Notes) (w : World)
    (hdrop : lines.drop i = rest) :
    Ends carry lines (.top (i + skip)) w ((playFrom carry skip notes rest).exec w) := by
  induction rest generalizing i skip notes w with
  | nil =>
    have hpast : lines.drop (i + skip) = [] := by
      rw [← List.drop_drop, hdrop, List.drop_nil]
    have haction : action lines (.top (i + skip)) = .stop := by
      simp only [action, getElem?_of_drop_eq_nil hpast]
    rw [ends_iff, exec_step_stop haction, playFrom]
    rfl
  | cons line rest ih =>
    obtain ⟨hline, hrest⟩ := getElem?_of_drop_eq_cons hdrop
    cases skip with
    | succ skip =>
      -- lines that the last block has used up
      rw [show i + (skip + 1) = i + 1 + skip by omega, playFrom]
      exact ih skip notes w hrest
    | zero =>
      rw [Nat.add_zero, ends_iff]
      cases hmenu : menu? line with
      | none =>
        have haction : action lines (.top i) = .carry i line (.top (i + 1)) := by
          simp only [action, hline, hmenu]
        rw [exec_step_carry haction]
        simp only [playFrom, hmenu, exec_bind, exec_traced]
        rcases (carry line).exec w with ⟨f | won, w'⟩
        · rfl
        · -- the line was carried out, and may have been a fight that was lost
          by_cases hlost : won = some false
          · simp only [hlost, if_true]
            rfl
          · simp only [hlost, if_false]
            exact ih 0 _ w' hrest
      | some cs =>
        cases hoptions : options? cs with
        | none =>
          have haction : action lines (.top i) = .pass (.top (i + 1)) := by
            simp only [action, hline, hmenu, hoptions]
          rw [exec_step_pass haction]
          simp only [playFrom, hmenu, hoptions]
          exact ih 0 _ w hrest
        | some options =>
          have haction : action lines (.top i) = .ask i options := by
            simp only [action, hline, hmenu, hoptions]
          rw [exec_step_ask haction]
          simp only [playFrom, hmenu, hoptions, exec_bind]
          rcases (Menu.choose options).exec w with ⟨f | number, w'⟩
          · rfl
          · cases number with
            | none => exact ih 0 _ w' hrest
            | some number =>
              -- the search of the machine is the one that the loop makes
              have hleads := @leads_seekBlock carry lines rest (i + 1) number 0
                (((notes.line line).menu line cs options (some number)).next) w' hrest (by simp)
              have htarget : (rest.zipIdx (i + 1)).findSome? (verdict number) =
                  target lines i number := by rw [target, hrest]
              rw [htarget] at hleads
              simp only [exec_bind]
              rcases hseek : (seekBlock carry number 0 _ rest).exec w' with
                ⟨f | ⟨- | ⟨count, notes'⟩⟩, w''⟩ <;> rw [hseek] at hleads
              · exact hleads
              · exact hleads
              · exact hleads _ (ih count notes' w'' hrest)

end

/-! ## The order of the deeds -/

/-- What an `action` is about, and where it leads. -/
private theorem action_spec (lines : List Line) (place : Place) :
    match action lines place with
    | .stop => True
    | .pass next => place.index ≤ next.index
    | .ask i _ => i = place.index
    | .carry i line next => i = place.index ∧ lines[i]? = some line ∧ next.index = i + 1 := by
  cases place with
  | top i =>
    cases hline : lines[i]? with
    | none => simp only [action, hline]
    | some line =>
      cases hmenu : menu? line with
      | none => simp only [action, hline, hmenu, Place.index, and_self]
      | some cs =>
        cases hoptions : options? cs with
        | none => simp only [action, hline, hmenu, hoptions, Place.index, Nat.le_succ]
        | some options => simp only [action, hline, hmenu, hoptions, Place.index]
  | block i =>
    cases hline : lines[i]? with
    | none => simp only [action, hline, Place.index, Nat.le_refl]
    | some line =>
      -- a header ends the block where it stands
      by_cases hheader : (header? line).isSome = true
      · simp only [action, hline, hheader, if_true, Place.index, Nat.le_refl]
      · simp only [action, hline, hheader, Bool.false_eq_true, if_false, Place.index, and_self]

/-- A search finds only what comes after the menu. -/
private theorem lt_of_target {lines : List Line} {i number j : Nat}
    (h : target lines i number = some (.ok j)) : i < j := by
  obtain ⟨⟨line, k⟩, hmem, hverdict⟩ := List.exists_of_findSome?_eq_some h
  have hle : i + 1 ≤ k := List.le_snd_of_mem_zipIdx hmem
  have hk : k = j := by
    -- a search finds the place it looks at
    simp only [verdict] at hverdict
    split at hverdict
    · cases hverdict
    · split at hverdict
      · cases hverdict
      · split at hverdict
        · cases hverdict
          rfl
        · cases hverdict
  omega

section

variable {carry : Line → Play (Option Bool)} {lines : List Line} {place next : Place}
  {w w' : World}

/-- The deeds of an action are about the line before which the machine stands. -/
private theorem index_of_mem_deeds {d : Deed} (h : d ∈ (action lines place).deeds) :
    d.index = place.index := by
  have hspec := action_spec lines place
  cases haction : action lines place <;> rw [haction] at h hspec <;>
    simp only [Action.deeds, List.mem_singleton, List.not_mem_nil] at h
  · rw [h]
    exact hspec
  · rw [h]
    exact hspec.1

/-- A `step` never goes back, and goes past a line about which it has done something. -/
private theorem index_of_exec_step (h : (step carry lines place).exec w = (.ok (.go next), w')) :
    place.index ≤ next.index ∧ ∀ d ∈ (action lines place).deeds, d.index < next.index := by
  have hspec := action_spec lines place
  cases haction : action lines place with
  | stop =>
    rw [exec_step_stop haction] at h
    cases h
  | pass target =>
    rw [exec_step_pass haction] at h
    cases h
    rw [haction] at hspec
    -- nothing is done here, so it is enough not to go back
    exact ⟨hspec, by simp [Action.deeds]⟩
  | ask i options =>
    rw [exec_step_ask haction] at h
    rw [haction] at hspec
    -- the menu leads to the next line, or to behind a header that the search has found
    have hlt : i < next.index := by
      rcases hc : (Menu.choose options).exec w with ⟨f | (_ | number), w₁⟩ <;> rw [hc] at h
      · cases h
      · cases h
        exact Nat.lt_succ_self i
      · simp only at h
        rcases htarget : target lines i number with _ | ⟨f | j⟩ <;> rw [htarget] at h <;> cases h
        exact Nat.lt_succ_of_lt (lt_of_target htarget)
    rw [← hspec]
    exact ⟨Nat.le_of_lt hlt, by simpa [Action.deeds, Deed.index] using hlt⟩
  | carry i line target =>
    rw [exec_step_carry haction] at h
    rw [haction] at hspec
    obtain ⟨hi, -, hnext⟩ := hspec
    -- the line leads to the next one, unless it fails or a fight is lost
    have htarget : target = next := by
      rcases hc : (carry line).exec w with ⟨f | won, w₁⟩ <;> rw [hc] at h
      · cases h
      · simp only at h
        split at h <;> cases h
        rfl
    rw [← hi, ← htarget, hnext]
    exact ⟨Nat.le_succ i, by simp [Action.deeds, Deed.index]⟩

/-- The deeds of a run are about later and later lines, from the place on at which it starts. -/
theorem Runs.ordered {deeds : List Deed} {out : Except Fault Bool × World}
    (h : Runs carry lines place w deeds out) :
    (∀ d ∈ deeds, place.index ≤ d.index) ∧ deeds.Pairwise fun a b => a.index < b.index := by
  have hfirst {place : Place} : (∀ d ∈ (action lines place).deeds, place.index ≤ d.index) ∧
      (action lines place).deeds.Pairwise fun a b => a.index < b.index := by
    refine ⟨fun d hd => (index_of_mem_deeds hd).ge, ?_⟩
    cases action lines place <;> simp [Action.deeds]
  induction h with
  | done h => exact hfirst
  | fault h => exact hfirst
  | go h rest ih =>
    obtain ⟨hle, hlt⟩ := index_of_exec_step h
    refine ⟨fun d hd => ?_, List.pairwise_append.2 ⟨hfirst.2, ih.2, fun a ha b hb => ?_⟩⟩
    · rcases List.mem_append.1 hd with hd | hd
      · exact hfirst.1 d hd
      · exact Nat.le_trans hle (ih.1 d hd)
    · -- what was done at this step is before the place at which the rest starts
      exact Nat.lt_of_lt_of_le (hlt a ha) (ih.1 b hb)

end

/-! ## Whole stories -/

/-- The machine runs a story: `openStory` opens the file, and if there is one the machine goes
    through its lines, from the first line on and outside of blocks. -/
def StoryRuns (name : String) (w : World) (deeds : List Deed)
    (out : Except Fault (Option Bool) × World) : Prop :=
  match (openStory name).exec w with
  | (.ok (some (_, lines)), w') =>
    ∃ won, Runs Command.run lines (.top 0) w' deeds won ∧ out = (won.1.map some, won.2)
  | (.ok none, w') => deeds = [] ∧ out = (.ok none, w')
  | (.error f, w') => deeds = [] ∧ out = (.error f, w')

/-- The machine runs a story in only one way. -/
theorem StoryRuns.unique {name : String} {w : World} {deeds deeds' : List Deed}
    {out out' : Except Fault (Option Bool) × World} (h : StoryRuns name w deeds out)
    (h' : StoryRuns name w deeds' out') : deeds = deeds' ∧ out = out' := by
  unfold StoryRuns at h h'
  split at h <;> rename_i hopen <;> simp only [hopen] at h'
  · obtain ⟨won, hruns, rfl⟩ := h
    obtain ⟨won', hruns', rfl⟩ := h'
    obtain ⟨rfl, rfl⟩ := hruns.unique hruns'
    exact ⟨rfl, rfl⟩
  · exact ⟨h.1.trans h'.1.symm, h.2.trans h'.2.symm⟩
  · exact ⟨h.1.trans h'.1.symm, h.2.trans h'.2.symm⟩

/-- The machine runs every story to its end, and ends as the loops do. -/
theorem exists_storyRuns (name : String) (w : World) :
    ∃ deeds : List Deed, (deeds.Pairwise fun a b => a.index < b.index) ∧
      StoryRuns name w deeds ((run name).exec w) := by
  simp only [StoryRuns, run, exec_bind]
  rcases (openStory name).exec w with ⟨f | (_ | ⟨notes, lines⟩), w'⟩
  · exact ⟨[], .nil, rfl, rfl⟩
  · exact ⟨[], .nil, rfl, rfl⟩
  · have hends : Ends Command.run lines (.top 0) w' ((play notes lines).exec w') :=
      ends_playFrom 0 notes w' (List.drop_zero (l := lines))
    obtain ⟨deeds, hruns⟩ := hends
    exact ⟨deeds, hruns.ordered.2, _, hruns, exec_map _ _ _⟩

/-- The loops and the machine play every story alike: the machine comes to an end, in only one way,
    and its result or fault, its events and its world are those of the loops. On the way it hands
    over every line at most once, and in their order. -/
theorem run_agrees_with_machine (name : String) (w : World) :
    ∃ deeds : List Deed, (deeds.Pairwise fun a b => a.index < b.index) ∧
      ∀ deeds' out, StoryRuns name w deeds' out ↔ deeds' = deeds ∧ out = (run name).exec w := by
  obtain ⟨deeds, hordered, hruns⟩ := exists_storyRuns name w
  refine ⟨deeds, hordered, fun deeds' out => ⟨fun h => h.unique hruns, ?_⟩⟩
  rintro ⟨rfl, rfl⟩
  exact hruns

end Gamebook.Story

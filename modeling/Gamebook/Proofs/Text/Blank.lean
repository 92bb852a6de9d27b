import Gamebook.Text.Blank
import Mathlib.Data.List.TakeWhile

/-!
# Blanks around a text

Trimming takes the blanks away that stand before and behind a text, and nothing else. So blanks that
are put there do not change what is left, and what is trimmed can be put together again.

## Key results

- `exists_blanks`: what is trimmed away at the start
- `trimStart_append`, `trimStart_append_mark`: up to where a text is trimmed
- `append_tight_inj`: the blanks before a text can be told from it
- `trim_padded`: blanks around a text do not matter
- `trim_append`: what stands before a trimmed text may be put there again
- `head?_trim`: what a text starts with stays
-/

namespace Gamebook.Text

/-- A text of nothing but blanks. -/
def AllBlank (cs : List Char) : Prop := ∀ c ∈ cs, isBlank c = true

instance (cs : List Char) : Decidable (AllBlank cs) :=
  List.decidableBAll (fun c => isBlank c = true) cs

/-- A blank is no letter, and has no other small letter than itself. -/
theorem toLower_of_isBlank {c : Char} (h : isBlank c = true) : c.toLower = c := by
  unfold Char.toLower
  split
  · rename_i hcapital
    have hrange : 65 ≤ c.toNat ∧ c.toNat ≤ 90 := hcapital
    simp only [isBlank, Bool.or_eq_true, Bool.and_eq_true, decide_eq_true_eq, beq_iff_eq] at h
    omega
  · rfl

/-- A text that does not start with a blank. -/
def IsTight : List Char → Prop
  | [] => True
  | c :: _ => isBlank c = false

instance : (cs : List Char) → Decidable (IsTight cs)
  | [] => inferInstanceAs (Decidable True)
  | c :: _ => inferInstanceAs (Decidable (isBlank c = false))

theorem isTight_of_forall_mem {cs : List Char} (h : ∀ c ∈ cs, isBlank c = false) : IsTight cs := by
  cases cs with
  | nil => trivial
  | cons c cs => exact h c List.mem_cons_self

/-- A text that holds none of some marks. -/
def Avoids (marks cs : List Char) : Prop := ∀ c ∈ marks, c ∉ cs

instance (marks cs : List Char) : Decidable (Avoids marks cs) :=
  List.decidableBAll (fun c => c ∉ cs) marks

/-- A text with a mark in it `IsTight` if the part before the mark is, and the mark is no blank. -/
theorem isTight_append_mark {cs : List Char} {mark : Char} (hmark : isBlank mark = false)
    (rest : List Char) : IsTight (cs ++ mark :: rest) ↔ IsTight cs := by
  cases cs with
  | nil => exact iff_of_true hmark trivial
  | cons c cs => exact Iff.rfl

theorem isTight_trimStart (cs : List Char) : IsTight (trimStart cs) := by
  induction cs with
  | nil => trivial
  | cons c cs ih =>
    by_cases hc : isBlank c = true
    · rwa [trimStart, List.dropWhile_cons_of_pos hc]
    · rw [trimStart, List.dropWhile_cons_of_neg hc]
      exact Bool.eq_false_iff.2 hc

/-- What `trimStart` takes away are blanks. -/
theorem exists_blanks (cs : List Char) :
    ∃ blanks, AllBlank blanks ∧ cs = blanks ++ trimStart cs :=
  ⟨cs.takeWhile isBlank, fun _ hc => List.mem_takeWhile_imp hc,
    List.takeWhile_append_dropWhile.symm⟩

/-- `trimStart` takes blanks away, up to a text that does not start with one. -/
theorem trimStart_append {blanks cs : List Char} (hblanks : AllBlank blanks)
    (htight : IsTight cs) : trimStart (blanks ++ cs) = cs := by
  rw [trimStart, List.dropWhile_append_of_pos hblanks]
  cases cs with
  | nil => rfl
  | cons c cs =>
    have hc : isBlank c = false := htight
    rw [List.dropWhile_cons_of_neg (by simp [hc])]

/-- `trimStart` takes nothing away behind a mark. -/
theorem trimStart_append_mark {mark : Char} (hmark : isBlank mark = false) (cs rest : List Char) :
    trimStart (cs ++ mark :: rest) = trimStart cs ++ mark :: rest := by
  obtain ⟨blanks, hblanks, hcs⟩ := exists_blanks cs
  have htight : IsTight (trimStart cs ++ mark :: rest) :=
    (isTight_append_mark hmark rest).2 (isTight_trimStart cs)
  calc trimStart (cs ++ mark :: rest)
      = trimStart (blanks ++ (trimStart cs ++ mark :: rest)) := by rw [← List.append_assoc, ← hcs]
    _ = trimStart cs ++ mark :: rest := trimStart_append hblanks htight

theorem mem_of_mem_trimStart {c : Char} {cs : List Char} (h : c ∈ trimStart cs) : c ∈ cs :=
  (List.dropWhile_suffix _).subset h

/-- `trimStart` takes nothing but blanks away. -/
theorem mem_trimStart_iff {c : Char} (hc : isBlank c = false) {cs : List Char} :
    c ∈ trimStart cs ↔ c ∈ cs := by
  refine ⟨mem_of_mem_trimStart, fun h => ?_⟩
  obtain ⟨before, rest, rfl⟩ := List.append_of_mem h
  rw [trimStart_append_mark hc]
  simp

/-- The blanks before a text that `IsTight` can be told from it. -/
theorem append_tight_inj {blanks blanks' cs cs' : List Char}
    (hblanks : AllBlank blanks) (hblanks' : AllBlank blanks')
    (h : IsTight cs) (h' : IsTight cs') (heq : blanks ++ cs = blanks' ++ cs') :
    blanks = blanks' ∧ cs = cs' := by
  have hcs : cs = cs' := by
    rw [← trimStart_append hblanks h, heq, trimStart_append hblanks' h']
  subst hcs
  exact ⟨List.append_cancel_right heq, rfl⟩

/-- `trim` does not change a text with no blank at either end. -/
theorem trim_of_ends {first last : Char} (hfirst : isBlank first = false)
    (hlast : isBlank last = false) (cs : List Char) :
    trim (first :: (cs ++ [last])) = first :: (cs ++ [last]) := by
  have hstart : trimStart (first :: (cs ++ [last])) = first :: (cs ++ [last]) := by
    simp [trimStart, hfirst]
  rw [trim, hstart, trimEnd]
  simp [hlast]

/-- A trimmed text does not end in a blank. -/
private theorem isBlank_of_getLast?_trim {c : Char} {cs : List Char}
    (h : (trim cs).getLast? = some c) : isBlank c = false := by
  rw [trim, trimEnd, List.getLast?_reverse] at h
  have hhead := List.head?_dropWhile_not isBlank (trimStart cs).reverse
  rw [h] at hhead
  simpa using hhead

/-- What stands before a text that `trim` does not change may be put there again, if it does not
    start with a blank. -/
theorem trim_append {first : Char} {cs : List Char} (hfirst : isBlank first = false) (hcs : cs ≠ [])
    (htrim : trim cs = cs) (between : List Char) :
    trim (first :: (between ++ cs)) = first :: (between ++ cs) := by
  obtain ⟨front, last, rfl⟩ := (List.eq_nil_or_concat cs).resolve_left hcs
  rw [List.concat_eq_append] at htrim ⊢
  -- the text ends as it did, and a trimmed text does not end in a blank
  have hlast : isBlank last = false := by
    have hend : (trim (front ++ [last])).getLast? = some last := by
      rw [htrim, List.getLast?_concat]
    exact isBlank_of_getLast?_trim hend
  rw [← List.append_assoc]
  exact trim_of_ends hfirst hlast _

/-- What `trim` leaves is made of the characters that were there. -/
theorem mem_of_mem_trim {c : Char} {cs : List Char} (h : c ∈ trim cs) : c ∈ cs := by
  rw [trim, trimEnd, List.mem_reverse] at h
  have hstart := List.mem_reverse.1 ((List.dropWhile_suffix _).subset h)
  exact mem_of_mem_trimStart hstart

theorem trimStart_of_allBlank {cs : List Char} (h : AllBlank cs) : trimStart cs = [] :=
  List.dropWhile_eq_nil_iff.2 h

private theorem trimEnd_append {cs blanks : List Char} (hblanks : AllBlank blanks) :
    trimEnd (cs ++ blanks) = trimEnd cs := by
  have hreverse : AllBlank blanks.reverse := fun c hc => hblanks c (List.mem_reverse.1 hc)
  rw [trimEnd, List.reverse_append, List.dropWhile_append_of_pos hreverse, trimEnd]

/-- `trim` takes away blanks on either side of a text. -/
theorem trim_padded {left right : List Char} (hleft : AllBlank left) (hright : AllBlank right)
    (cs : List Char) : trim (left ++ cs ++ right) = trim cs := by
  have hstart : trimStart (left ++ cs ++ right) = trimStart (cs ++ right) := by
    rw [List.append_assoc, trimStart, List.dropWhile_append_of_pos hleft, trimStart]
  rw [trim, hstart, trim, trimStart, List.dropWhile_append]
  split
  · -- there is nothing in the text but blanks
    rename_i hempty
    have hnil : trimStart cs = [] := List.isEmpty_iff.1 hempty
    rw [hnil]
    exact congrArg trimEnd (trimStart_of_allBlank hright)
  · exact trimEnd_append hright

/-- The character that a text starts with stays if it is no blank. -/
theorem head?_trim {c : Char} (hc : isBlank c = false) (cs : List Char) :
    (trim (c :: cs)).head? = some c := by
  have hstart : trimStart (c :: cs) = c :: cs := List.dropWhile_cons_of_neg (by simp [hc])
  rw [trim, hstart, trimEnd, List.reverse_cons, List.dropWhile_append]
  split <;> simp [hc]

end Gamebook.Text

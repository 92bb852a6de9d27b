import Gamebook.Text.Lines
import Mathlib.Data.List.Basic

/-!
# Cutting and exchanging

Facts about `List.splitOn`, which cuts a story into lines, a path into parts and a menu into
options, and about `replaceAll` and `unifyLineEnds`.

## Key results

- `exists_splitOn_append`: what stands behind the last mark
- `append_mark_inj`: the first mark cuts a text in one way
- `mem_intercalate`: the characters of a text that is joined from pieces
- `mem_replaceAll`: a character that is no part of the old word stays
- `replaceAll_append`, `replaceAll_nil_eq_self_iff`: words that are exchanged or taken out
- `isPrefixOf?_append`: what `List.isPrefixOf?` gives for a text that starts with a word
- `unifyLineEnds_append`, `unifyLineEnds_of_not_mem`: only `\r` is changed
-/

namespace Gamebook.Text

/-- A text `behind` without the mark goes to the last piece of `splitOn`. -/
theorem exists_splitOn_append {mark : Char} {behind : List Char} (h : mark ∉ behind)
    (cs : List Char) :
    ∃ pieces last, cs.splitOn mark = pieces ++ [last] ∧
      (cs ++ behind).splitOn mark = pieces ++ [last ++ behind] := by
  induction cs with
  | nil => exact ⟨[], [], List.splitOn_nil mark, List.splitOn_eq_singleton h⟩
  | cons c cs ih =>
    obtain ⟨pieces, last, hcs, hbehind⟩ := ih
    rw [List.cons_append, List.splitOn_cons_eq_if_modifyHead, List.splitOn_cons_eq_if_modifyHead,
      hcs, hbehind]
    by_cases hc : c == mark
    · exact ⟨[] :: pieces, last, by simp [hc], by simp [hc]⟩
    · -- the character belongs to the first piece, which may be the last one
      cases pieces with
      | nil => exact ⟨[], c :: last, by simp [hc], by simp [hc]⟩
      | cons piece pieces => exact ⟨(c :: piece) :: pieces, last, by simp [hc], by simp [hc]⟩

/-- The first mark of a text cuts it in one way. -/
theorem append_mark_inj {mark : Char} {cs cs' rest rest' : List Char} (h : mark ∉ cs)
    (h' : mark ∉ cs') (heq : cs ++ mark :: rest = cs' ++ mark :: rest') :
    cs = cs' ∧ rest = rest' := by
  -- the mark comes at the same place in both texts, since it is in neither part before it
  induction cs generalizing cs' with
  | nil =>
    cases cs' with
    | nil => exact ⟨rfl, (List.cons.inj heq).2⟩
    | cons c cs' => exact absurd ((List.cons.inj heq).1 ▸ List.mem_cons_self) h'
  | cons c cs ih =>
    cases cs' with
    | nil => exact absurd ((List.cons.inj heq).1 ▸ List.mem_cons_self) h
    | cons c' cs' =>
      obtain ⟨rfl, htail⟩ := List.cons.inj heq
      obtain ⟨rfl, hrest⟩ := ih (fun hmem => h (List.mem_cons_of_mem _ hmem))
        (fun hmem => h' (List.mem_cons_of_mem _ hmem)) htail
      exact ⟨rfl, hrest⟩

/-- A character that is not in the mark is in a joined text if it is in one of the pieces. -/
theorem mem_intercalate {c : Char} {mark : List Char} {pieces : List (List Char)}
    (hmark : c ∉ mark) : c ∈ mark.intercalate pieces ↔ ∃ piece ∈ pieces, c ∈ piece := by
  induction pieces with
  | nil => simp
  | cons piece pieces ih =>
    cases pieces with
    | nil => simp
    | cons next pieces =>
      rw [List.intercalate_cons_cons, List.mem_append, List.mem_append, ih]
      simp [hmark]

/-- Nothing is left of a text of which `replaceFrom` passes everything over. -/
private theorem replaceFrom_of_length_le {old new : List Char} {skip : Nat} {cs : List Char}
    (h : cs.length ≤ skip) : replaceFrom old new skip cs = [] := by
  induction cs generalizing skip with
  | nil => rw [replaceFrom]
  | cons c cs ih =>
    cases skip with
    | zero => simp at h
    | succ skip => exact ih (by simpa using h)

/-- What `replaceFrom` leaves has all characters that are not in the old word. -/
private theorem mem_replaceFrom {old new : List Char} {c : Char} (hold : old ≠ []) (hc : c ∉ old)
    {skip : Nat} {cs : List Char} (h : c ∈ cs.drop skip) : c ∈ replaceFrom old new skip cs := by
  induction cs generalizing skip with
  | nil => simp at h
  | cons d cs ih =>
    cases skip with
    | succ skip => exact ih h
    | zero =>
      rw [replaceFrom]
      split
      · -- the word starts here, and the character can only stand behind it
        rename_i hprefix
        obtain ⟨rest, hrest⟩ := List.isPrefixOf_iff_prefix.1 hprefix
        obtain ⟨o, os, rfl⟩ := List.exists_cons_of_ne_nil hold
        obtain ⟨rfl, rfl⟩ := List.cons.inj hrest
        have hmem : c ∈ rest := (List.mem_append.1 h).resolve_left hc
        refine List.mem_append_right _ (ih ?_)
        simpa using hmem
      · rcases List.mem_cons.1 h with rfl | hmem
        · exact List.mem_cons_self
        · exact List.mem_cons_of_mem _ (ih hmem)

theorem mem_replaceAll {old new cs : List Char} {c : Char} (hold : old ≠ []) (hc : c ∉ old)
    (h : c ∈ cs) : c ∈ replaceAll old new cs :=
  mem_replaceFrom hold hc h

/-! ## Words that are exchanged or taken out -/

/-- A word at the end of a text is exchanged by itself, if its first character does not come again
    in it: then no other occurrence reaches into it. -/
private theorem replaceFrom_append {o : Char} {os new : List Char} (ho : o ∉ os) {skip : Nat}
    {cs : List Char} (hskip : skip ≤ cs.length) :
    replaceFrom (o :: os) new skip (cs ++ o :: os) = replaceFrom (o :: os) new skip cs ++ new := by
  induction cs generalizing skip with
  | nil =>
    obtain rfl : skip = 0 := by simpa using hskip
    simp [replaceFrom, replaceFrom_of_length_le]
  | cons c cs ih =>
    cases skip with
    | succ skip => exact ih (by simpa using hskip)
    | zero =>
      -- the word starts here in the longer text only if it does so in the shorter one
      have hprefix : o :: os <+: c :: (cs ++ o :: os) ↔ o :: os <+: c :: cs := by
        rw [List.cons_prefix_cons, List.cons_prefix_cons]
        refine and_congr_right fun _ => ⟨fun h => ?_, fun h => h.trans (List.prefix_append _ _)⟩
        rcases List.prefix_or_prefix_of_prefix h (List.prefix_append cs (o :: os)) with h' | h'
        · exact h'
        · -- the rest of the word would start with its first character
          obtain ⟨rest, rfl⟩ := h'
          rw [List.prefix_append_right_inj] at h
          cases rest with
          | nil => simp
          | cons r rest =>
            obtain ⟨rfl, -⟩ := List.cons_prefix_cons.1 h
            exact absurd (List.mem_append_right _ List.mem_cons_self) ho
      rw [List.cons_append, replaceFrom, replaceFrom]
      simp only [List.isPrefixOf_iff_prefix, hprefix]
      split
      · rename_i h
        have hlength : os.length ≤ cs.length := by simpa using h.length_le
        rw [List.length_cons, Nat.add_sub_cancel, ih hlength, List.append_assoc]
      · rw [ih (Nat.zero_le _), List.cons_append]

theorem replaceAll_append {o : Char} {os new : List Char} (ho : o ∉ os) (cs : List Char) :
    replaceAll (o :: os) new (cs ++ o :: os) = replaceAll (o :: os) new cs ++ new :=
  replaceFrom_append ho (Nat.zero_le _)

/-- Taking a word out of a text never makes it longer. -/
private theorem length_replaceFrom_le (old : List Char) (skip : Nat) (cs : List Char) :
    (replaceFrom old [] skip cs).length ≤ (cs.drop skip).length := by
  induction cs generalizing skip with
  | nil => simp [replaceFrom]
  | cons c cs ih =>
    cases skip with
    | succ skip => exact ih skip
    | zero =>
      rw [replaceFrom]
      split
      · -- what is taken out is skipped, one character here and the others behind it
        have hrest := ih (old.length - 1)
        rw [List.length_drop] at hrest
        simp only [List.nil_append, List.drop_zero, List.length_cons]
        omega
      · simpa using ih 0

/-- `replaceAll` by nothing changes a text exactly if the word occurs in it. -/
theorem replaceAll_nil_eq_self_iff {old : List Char} (hold : old ≠ []) {cs : List Char} :
    replaceAll old [] cs = cs ↔ ¬ old <:+: cs := by
  unfold replaceAll
  induction cs with
  | nil => simpa [replaceFrom] using hold
  | cons c cs ih =>
    rw [replaceFrom, List.infix_cons_iff, ← List.isPrefixOf_iff_prefix]
    by_cases hprefix : old.isPrefixOf (c :: cs) = true
    · -- the text gets shorter
      have hrest := length_replaceFrom_le old (old.length - 1) cs
      rw [List.length_drop] at hrest
      rw [if_pos hprefix, List.nil_append]
      refine iff_of_false (fun heq => ?_) fun hnone => hnone (.inl hprefix)
      have hlength := congrArg List.length heq
      rw [List.length_cons] at hlength
      omega
    · rw [if_neg hprefix, List.cons_inj_right, ih, not_or]
      exact (and_iff_right hprefix).symm

/-- A word in front of a text is what `isPrefixOf?` takes away. -/
theorem isPrefixOf?_append (start cs : List Char) : start.isPrefixOf? (start ++ cs) = some cs :=
  List.isPrefixOf?_eq_some_iff_append_eq.2 rfl

/-- `isPrefixOf?` finds nothing in a text that starts with another character than the word. -/
theorem isPrefixOf?_cons_of_ne {a c : Char} (h : a ≠ c) (word cs : List Char) :
    (a :: word).isPrefixOf? (c :: cs) = none := by
  cases hfound : (a :: word).isPrefixOf? (c :: cs) with
  | none => rfl
  | some rest =>
    have happend := List.append_eq_of_isPrefixOf?_eq_some hfound
    exact absurd (List.cons.inj happend).1 h

/-! ## Line ends -/

theorem unifyLineEnds_cons {c : Char} (hc : c ≠ '\r') (cs : List Char) :
    unifyLineEnds (c :: cs) = c :: unifyLineEnds cs := by
  rw [unifyLineEnds, if_neg hc]
  rintro _ rfl
  exact absurd rfl hc

/-- `unifyLineEnds` leaves the part of a text without `\r` as it is. -/
theorem unifyLineEnds_append {cs : List Char} (h : '\r' ∉ cs) (rest : List Char) :
    unifyLineEnds (cs ++ rest) = cs ++ unifyLineEnds rest := by
  induction cs with
  | nil => rfl
  | cons c cs ih =>
    simp only [List.mem_cons, not_or] at h
    rw [List.cons_append, unifyLineEnds_cons (Ne.symm h.1), ih h.2, List.cons_append]

/-- `unifyLineEnds` leaves a text without `\r` as it is. -/
theorem unifyLineEnds_of_not_mem {cs : List Char} (h : '\r' ∉ cs) : unifyLineEnds cs = cs := by
  have happend := unifyLineEnds_append h []
  rwa [List.append_nil, unifyLineEnds, List.append_nil] at happend

end Gamebook.Text

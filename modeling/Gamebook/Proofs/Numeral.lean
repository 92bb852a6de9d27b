import Gamebook.Amount
import Mathlib.Data.List.TakeWhile

/-!
# Reading rows of digits

A row of digits of any script is read as the number that it spells, if it is not too long, and the
number then has no more digits than the row. The decimal text of a number is such a row, and it is
read as the number.

## Key results

- `Whole.read_of_row`, `Whole.read_digits`: what a row of digits is read as
- `Whole.read_padded`: padding around a text does not matter
- `Whole.lt_of_read`: a number that was read has at most `Whole.maxDigits` digits
- `Text.numeral_toDigits`: the decimal text of a number spells the number
- `Whole.read_write`: the decimal text of a number is read as the number
-/

namespace Gamebook

namespace Text

/-! ## Digits -/

/-- What `isDigit` stands in the row of some zero. -/
private theorem exists_zero_of_isDigit {c : Char} (h : isDigit c = true) :
    ∃ z ∈ zeros, z ≤ c.toNat ∧ c.toNat < z + 10 := by
  simp only [isDigit, digitValue?, Option.isSome_map, List.find?_isSome, Bool.and_eq_true,
    decide_eq_true_eq] at h
  obtain ⟨z, hz, hle, hlt⟩ := h
  exact ⟨z, hz, hle, hlt⟩

/-- What holds of the numbers in the rows of all zeros holds of the number of a digit. -/
private theorem forall_digit {p : Nat → Prop} (hp : ∀ z ∈ zeros, ∀ d < 10, p (z + d)) {c : Char}
    (h : isDigit c = true) : p c.toNat := by
  obtain ⟨z, hz, hle, hlt⟩ := exists_zero_of_isDigit h
  have hd := hp z hz (c.toNat - z) (by omega)
  rwa [Nat.add_sub_cancel' hle] at hd

/-- A digit is worth less than ten. -/
private theorem digitValue?_lt {c : Char} {d : Nat} (h : digitValue? c = some d) : d < 10 := by
  simp only [digitValue?, Option.map_eq_some_iff] at h
  obtain ⟨z, hz, rfl⟩ := h
  have hrange := List.find?_some hz
  simp only [Bool.and_eq_true, decide_eq_true_eq] at hrange
  omega

/-- The digits of ASCII are digits, worth their distance from `0`. -/
private theorem digitValue?_of_ascii {c : Char} (h : c.isDigit = true) :
    digitValue? c = some (c.toNat - '0'.toNat) := by
  simp only [Char.isDigit, Bool.and_eq_true, decide_eq_true_eq, ge_iff_le, UInt32.le_iff_toNat_le]
    at h
  have hrange : (0x30 ≤ c.toNat && c.toNat < 0x30 + 10) = true := by
    have hle : 48 ≤ c.toNat := h.1
    have hlt : c.toNat ≤ 57 := h.2
    simp only [Bool.and_eq_true, decide_eq_true_eq]
    omega
  simp only [digitValue?, zeros, List.find?_cons, hrange, Option.map_some]
  rfl

theorem isDigit_of_ascii {c : Char} (h : c.isDigit = true) : isDigit c = true := by
  simp [isDigit, digitValue?_of_ascii h]

/-- No character that `isDigit` is blank. -/
theorem isBlank_of_isDigit {c : Char} (h : isDigit c = true) : isBlank c = false := by
  simp only [isBlank]
  -- blanks are ranges of numbers, and no row of digits meets them
  refine forall_digit (p := fun n => ((9 ≤ n && n ≤ 13) || (0x1c ≤ n && n ≤ 0x20) || n == 0x85 ||
    n == 0xa0 || n == 0x1680 || (0x2000 ≤ n && n ≤ 0x200a) || n == 0x2028 || n == 0x2029 ||
    n == 0x202f || n == 0x205f || n == 0x3000) = false) ?_ h
  decide

/-- A digit is none of the other marks in a number. -/
theorem ne_of_isDigit {c m : Char} (h : isDigit c = true) (hm : isDigit m = false) : c ≠ m := by
  rintro rfl
  rw [h] at hm
  cases hm

/-! ## Rows of digits -/

/-- A row of digits spells a `numeral` below the power of ten of its length. -/
private theorem numeral_lt (ds : List Char) (acc bound : Nat) (h : acc < bound) :
    numeral ds acc < bound * Nat.pow 10 ds.length := by
  -- each digit makes the bound ten times as large
  induction ds generalizing acc bound with
  | nil => simpa [numeral] using h
  | cons c ds ih =>
    have hd : (digitValue? c).getD 0 < 10 := by
      cases hc : digitValue? c with
      | none => simp
      | some d => exact digitValue?_lt hc
    have hstep := ih (10 * acc + (digitValue? c).getD 0) (10 * bound) (by omega)
    have hpow : Nat.pow 10 (c :: ds).length = 10 * Nat.pow 10 ds.length := Nat.mul_comm _ _
    rw [hpow, ← Nat.mul_assoc, Nat.mul_comm bound]
    exact hstep

/-- For digits of ASCII `numeral` is `Nat.ofDigitChars`. -/
theorem numeral_eq_ofDigitChars (ds : List Char) (acc : Nat)
    (h : ∀ c ∈ ds, c.isDigit = true) : numeral ds acc = Nat.ofDigitChars 10 ds acc := by
  induction ds generalizing acc with
  | nil => rfl
  | cons c ds ih =>
    have hc := digitValue?_of_ascii (h c List.mem_cons_self)
    have hrest := ih (10 * acc + (c.toNat - '0'.toNat)) fun d hd => h d (List.mem_cons_of_mem _ hd)
    rw [Nat.ofDigitChars_cons, ← hrest]
    simp only [numeral, List.foldl_cons, hc, Option.getD_some]

/-- The decimal text of a number spells the number. -/
theorem numeral_toDigits (n : Nat) : numeral (Nat.toDigits 10 n) 0 = n := by
  have hdigits : ∀ c ∈ Nat.toDigits 10 n, c.isDigit = true :=
    fun _ hc => Nat.isDigit_of_mem_toDigits (by decide) (by decide) hc
  rw [numeral_eq_ofDigitChars _ _ hdigits]
  exact Nat.ofDigitChars_ten_toDigits

/-- The decimal text of a number starts with a digit. -/
theorem exists_toDigits_eq_cons (n : Nat) :
    ∃ d ds, Nat.toDigits 10 n = d :: ds ∧ d.isDigit = true := by
  obtain ⟨d, ds, h⟩ := List.exists_cons_of_ne_nil (Nat.toDigits_ne_nil (n := n) (b := 10))
  have hmem : d ∈ Nat.toDigits 10 n := h ▸ List.mem_cons_self
  exact ⟨d, ds, h, Nat.isDigit_of_mem_toDigits (by decide) (by decide) hmem⟩

/-- The decimal text of a number is a row of digits. -/
theorem all_isDigit_toDigits (n : Nat) : ∀ c ∈ Nat.toDigits 10 n, isDigit c = true :=
  fun _ hc => isDigit_of_ascii (Nat.isDigit_of_mem_toDigits (by decide) (by decide) hc)

end Text

namespace Whole

/-- A row of digits is `wellSpaced`: it has no underscores. -/
private theorem wellSpaced_digits {ds : List Char} (h : ∀ c ∈ ds, Text.isDigit c = true)
    (afterDigit : Bool) (hne : ds ≠ [] ∨ afterDigit = true) : wellSpaced afterDigit ds = true := by
  induction ds generalizing afterDigit with
  | nil => simpa [wellSpaced] using hne
  | cons c ds ih =>
    have hc : c ≠ '_' := Text.ne_of_isDigit (h c List.mem_cons_self) (by decide)
    simp only [wellSpaced, beq_iff_eq, hc, if_false]
    exact ih (fun d hd => h d (List.mem_cons_of_mem _ hd)) true (Or.inr rfl)

/-- `read` gives the number that a row of digits and underscores behind an optional sign spells,
    unless there are too many digits. -/
theorem read_of_row {cs row : List Char} {negative : Bool}
    (hsign : takeSign (cs.dropWhile isPadding) = (negative, row))
    (hrow : ∀ c ∈ row, (Text.isDigit c || c == '_') = true)
    (hspaced : wellSpaced false row = true) :
    read cs = if maxDigits < (row.filter (· != '_')).length
      then .error (.tooLong (row.filter (· != '_')).length)
      else .ok (if negative then -(Text.numeral (row.filter (· != '_')) 0 : Int)
        else Text.numeral (row.filter (· != '_')) 0) := by
  -- the whole row belongs to the number
  have htake := List.takeWhile_eq_self_iff.2 hrow
  have hdrop := List.dropWhile_eq_nil_iff.2 hrow
  simp only [read, hsign, htake, hdrop, hspaced, List.all_nil, Bool.not_true, Bool.false_eq_true,
    if_false, if_true]

/-- `read` gives the number that a row of digits behind an optional sign spells, unless it is too
    long. -/
private theorem read_of_takeSign {cs ds : List Char} {negative : Bool}
    (hsign : takeSign (cs.dropWhile isPadding) = (negative, ds)) (hne : ds ≠ [])
    (h : ∀ c ∈ ds, Text.isDigit c = true) :
    read cs = if maxDigits < ds.length then .error (.tooLong ds.length)
      else .ok (if negative then -(Text.numeral ds 0 : Int) else Text.numeral ds 0) := by
  have hfilter : ds.filter (· != '_') = ds :=
    List.filter_eq_self.2 fun d hd => by
      simpa using Text.ne_of_isDigit (h d hd) (by decide : Text.isDigit '_' = false)
  have hread := read_of_row hsign (fun d hd => by simp [h d hd])
    (wellSpaced_digits h false (Or.inl hne))
  rwa [hfilter] at hread

/-- `takeSign` takes a plus or a minus, and nothing else. -/
private theorem takeSign_of_ne {c : Char} (hplus : c ≠ '+') (hminus : c ≠ '-') (cs : List Char) :
    takeSign (c :: cs) = (false, c :: cs) := by
  unfold takeSign
  split
  · rename_i heq
    exact absurd (List.cons.inj heq).1 hplus
  · rename_i heq
    exact absurd (List.cons.inj heq).1 hminus
  · rfl

/-- No sign stands in front of a digit. -/
theorem takeSign_of_isDigit {c : Char} (hc : Text.isDigit c = true) (cs : List Char) :
    takeSign (c :: cs) = (false, c :: cs) :=
  takeSign_of_ne (Text.ne_of_isDigit hc (by decide)) (Text.ne_of_isDigit hc (by decide)) cs

/-- `read` gives the number that a row of digits spells, unless it is too long. -/
theorem read_digits {ds : List Char} (hne : ds ≠ []) (h : ∀ c ∈ ds, Text.isDigit c = true) :
    read ds = if maxDigits < ds.length then .error (.tooLong ds.length)
      else .ok (Text.numeral ds 0) := by
  obtain ⟨c, ds, rfl⟩ := List.exists_cons_of_ne_nil hne
  have hc := h c List.mem_cons_self
  have hpad : (c :: ds).dropWhile isPadding = c :: ds := by
    simp [isPadding, Text.isBlank_of_isDigit hc]
  have hsign : takeSign ((c :: ds).dropWhile isPadding) = (false, c :: ds) := by
    rw [hpad, takeSign_of_isDigit hc]
  simpa using read_of_takeSign hsign hne h

/-! ## Padding -/

/-- Padding is no part of a number. -/
private theorem not_inNumber_of_isPadding {c : Char} (h : isPadding c = true) :
    (Text.isDigit c || c == '_') = false := by
  simp only [isPadding, Bool.and_eq_true] at h
  refine Bool.or_eq_false_iff.2 ⟨Bool.eq_false_iff.2 fun hdigit => ?_, beq_eq_false_iff_ne.2 ?_⟩
  · rw [Text.isBlank_of_isDigit hdigit] at h
    cases h.1
  · rintro rfl
    exact absurd h.1 (by decide)

/-- What stands at the end of a text does not change its sign. -/
theorem takeSign_append {cs : List Char} (hne : cs ≠ []) (right : List Char) :
    takeSign (cs ++ right) = ((takeSign cs).1, (takeSign cs).2 ++ right) := by
  obtain ⟨c, cs, rfl⟩ := List.exists_cons_of_ne_nil hne
  by_cases hplus : c = '+'
  · subst hplus
    rfl
  · by_cases hminus : c = '-'
    · subst hminus
      rfl
    · rw [List.cons_append, takeSign_of_ne hplus hminus, takeSign_of_ne hplus hminus]
      rfl

/-- A row of characters with a property goes no further than to a text of characters without it. -/
private theorem takeWhile_append_of_neg {p : Char → Bool} {right : List Char}
    (hright : ∀ c ∈ right, p c = false) (cs : List Char) :
    (cs ++ right).takeWhile p = cs.takeWhile p ∧
      (cs ++ right).dropWhile p = cs.dropWhile p ++ right := by
  induction cs with
  | nil =>
    cases right with
    | nil => exact ⟨rfl, rfl⟩
    | cons c right => simp [hright c List.mem_cons_self]
  | cons c cs ih =>
    by_cases hc : p c = true
    · simp [hc, ih]
    · simp [hc]

/-- Padding around a text does not change what `read` makes of it. -/
theorem read_padded {left right : List Char} (hleft : ∀ c ∈ left, isPadding c = true)
    (hright : ∀ c ∈ right, isPadding c = true) (cs : List Char) :
    read (left ++ cs ++ right) = read cs := by
  by_cases hall : ∀ c ∈ cs, isPadding c = true
  · -- there is nothing but padding, with more of it or without
    have hnone : cs.dropWhile isPadding = [] := List.dropWhile_eq_nil_iff.2 hall
    have hnone' : (left ++ cs ++ right).dropWhile isPadding = [] := by
      refine List.dropWhile_eq_nil_iff.2 fun c hc => ?_
      rcases List.mem_append.1 hc with hc | hc
      · exact (List.mem_append.1 hc).elim (hleft c) (hall c)
      · exact hright c hc
    simp only [read, hnone, hnone']
  · have hne : cs.dropWhile isPadding ≠ [] := fun h => hall (List.dropWhile_eq_nil_iff.1 h)
    have hdrop : (left ++ cs ++ right).dropWhile isPadding = cs.dropWhile isPadding ++ right := by
      rw [List.append_assoc, List.dropWhile_append_of_pos hleft, List.dropWhile_append,
        if_neg (by simpa using hne)]
    -- what follows the number is padding, with more of it or without
    have hrow := takeWhile_append_of_neg (fun c hc => not_inNumber_of_isPadding (hright c hc))
      (takeSign (cs.dropWhile isPadding)).2
    have hpadding : right.all isPadding = true := List.all_eq_true.2 hright
    simp only [read, hdrop, takeSign_append hne, hrow.1, hrow.2, List.all_append, hpadding,
      Bool.and_true]

/-- A number has at most `maxDigits` digits exactly if it is below the limit. -/
theorem length_toDigits_le_iff (n : Nat) :
    (Nat.toDigits 10 n).length ≤ maxDigits ↔ n < limit := by
  have hpos : 0 < maxDigits := by decide
  unfold limit
  -- for any number of digits, so that the power is never computed
  generalize maxDigits = most at hpos
  exact Nat.length_toDigits_le_iff (by decide) hpos

/-- `read` takes back what `write` does, if the number has not too many digits. -/
theorem read_write {n : Int} (hn : n.natAbs < limit) : read (write n) = .ok n := by
  have hlen : ¬ maxDigits < (Nat.toDigits 10 n.natAbs).length :=
    Nat.not_lt.2 ((length_toDigits_le_iff _).2 hn)
  have hdigits := Text.all_isDigit_toDigits n.natAbs
  have hne : Nat.toDigits 10 n.natAbs ≠ [] := Nat.toDigits_ne_nil
  -- a number below zero is written with its sign
  unfold write
  split
  · have hvalue : -(n.natAbs : Int) = n := by omega
    have hsign : takeSign (('-' :: Nat.toDigits 10 n.natAbs).dropWhile isPadding) =
        (true, Nat.toDigits 10 n.natAbs) := rfl
    rw [read_of_takeSign hsign hne hdigits, if_neg hlen, Text.numeral_toDigits, if_pos rfl, hvalue]
  · have hvalue : (n.natAbs : Int) = n := by omega
    rw [read_digits hne hdigits, if_neg hlen, Text.numeral_toDigits, hvalue]

/-- What `write` gives is made of digits and a minus. -/
theorem mem_write {n : Int} {c : Char} (h : c ∈ write n) : c.isDigit = true ∨ c = '-' := by
  have hdigit {c : Char} (h : c ∈ Nat.toDigits 10 n.natAbs) : c.isDigit = true :=
    Nat.isDigit_of_mem_toDigits (by decide) (by decide) h
  unfold write at h
  split at h
  · rcases List.mem_cons.1 h with rfl | h
    · exact .inr rfl
    · exact .inl (hdigit h)
  · exact .inl (hdigit h)

/-- A number from `read` has at most `maxDigits` digits. -/
theorem lt_of_read {cs : List Char} {n : Int} (h : read cs = .ok n) : n.toNat < limit := by
  unfold read at h
  dsimp only at h
  split at h
  · cases h
  · split at h
    · cases h
    · rename_i hlen
      split at h
      · -- the row of digits is not too long
        generalize List.filter _ _ = ds at h hlen
        have hlt := Text.numeral_lt ds 0 1 Nat.zero_lt_one
        have hpow : Nat.pow 10 ds.length ≤ limit := by
          unfold limit
          generalize maxDigits = most at hlen
          exact Nat.pow_le_pow_right (by decide) (Nat.le_of_not_lt hlen)
        have hn := Except.ok.inj h
        rw [Nat.one_mul] at hlt
        split at hn <;> omega
      · cases h

end Whole

/-- `readWhole` takes back what `write` does, if the number has not too many digits. -/
theorem readWhole_write {n : Int} (hn : n.natAbs < Whole.limit) :
    readWhole (Whole.write n) = .ok n := by
  rw [readWhole, Whole.read_write hn]

/-- What `readWhole` makes of a row of digits, with the fault of one that is too long. -/
theorem readWhole_digits {ds : List Char} (hne : ds ≠ []) (h : ∀ c ∈ ds, Text.isDigit c = true) :
    readWhole ds = if Whole.maxDigits < ds.length then .error (.numberTooLong ds.length)
      else .ok (Text.numeral ds 0) := by
  rw [readWhole, Whole.read_digits hne h]
  split <;> rename_i heq <;> split at heq <;> simp_all

end Gamebook

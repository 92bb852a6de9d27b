import Gamebook.Json.Reader
import Mathlib.Data.List.TakeDrop
import Mathlib.Data.List.TakeWhile

/-!
# How strings and numbers are spelled

The spelling of a string or of a number says which characters it is made of and what these stand
for, without a word about how they are read. The readers take a spelling from the front of a text
and leave the rest. Nothing else is ever taken, and whatever is spelled is taken as a whole, if what
follows it cannot be a part of it.

A string ends at its quote, so anything may follow it. A number has no mark at its end. Behind a
value there can only be a gap, a comma, a closing bracket or the end of the text, and none of these
goes on with a number.

## Key results

- `readNumbers_eq_some_iff`: what is read as the inside of a string
- `exists_figure_of_readNumber`: only numbers are read as numbers
- `readNumber_append`: a number is read as a whole
-/

namespace Gamebook.Json

/-! ## Strings -/

/-- A piece of a string and the number that it stands for: a character by itself, a letter behind a
    backslash, or four hexadecimal digits. -/
inductive Piece : List Char → Nat → Prop where
  | plain {c : Char} (hquote : c ≠ '"') (hslash : c ≠ '\\') (hlow : 0x20 ≤ c.toNat) :
      Piece [c] c.toNat
  | letter {e c : Char} (h : escaped? e = some c) : Piece ['\\', e] c.toNat
  | digits {a b c d : Char} {n : Nat} (h : hexFour? a b c d = some n) :
      Piece ['\\', 'u', a, b, c, d] n

/-- What stands between the quotes of a string, and the numbers of its pieces. -/
inductive Inside : List Char → List Nat → Prop where
  | nil : Inside [] []
  | cons {piece rest : List Char} {n : Nat} {ns : List Nat} (first : Piece piece n)
      (others : Inside rest ns) : Inside (piece ++ rest) (n :: ns)

/-- `readNumbers` reads a `Piece` as its number, whatever follows it. -/
private theorem readNumbers_piece {piece : List Char} {n : Nat} (h : Piece piece n)
    (cs : List Char) :
    readNumbers (piece ++ cs) = (readNumbers cs).map (Prod.map (n :: ·) id) := by
  -- the equations of the reader ask in turn for the end, for digits, for a letter and for the rest
  cases h with
  | @plain c hquote hslash hlow =>
    have hplain : (decide (c.toNat < 0x20) || c == '\\') = false := by
      simp [hslash, Nat.not_lt.2 hlow]
    rw [List.singleton_append, readNumbers]
    · simp only [hplain, Bool.false_eq_true, if_false, bind, Option.bind, pure]
      cases readNumbers cs <;> rfl
    · exact hquote
    · rintro _ _ _ _ _ rfl
      exact absurd rfl hslash
    · rintro _ _ rfl
      exact absurd rfl hslash
  | @letter e c hletter =>
    -- the letter that announces digits stands for nothing by itself
    have hdigits : e ≠ 'u' := by
      rintro rfl
      cases hletter
    rw [List.cons_append, List.singleton_append, readNumbers]
    · simp only [hletter, bind, Option.bind, pure]
      cases readNumbers cs <;> rfl
    · rintro _ _ _ _ _ rfl
      exact absurd rfl hdigits
  | digits hdigits =>
    simp only [List.cons_append, List.nil_append, readNumbers, hdigits, bind, Option.bind, pure]
    cases readNumbers cs <;> rfl

/-- What `readNumbers` reads is spelled like the `Inside` of a string, and ends at the first quote
    that is not behind a backslash. -/
private theorem exists_inside_of_readNumbers {cs rest : List Char} {ns : List Nat}
    (h : readNumbers cs = some (ns, rest)) :
    ∃ inside, cs = inside ++ '"' :: rest ∧ Inside inside ns := by
  -- one more piece in front of an inside that was found
  have hcons {piece tail : List Char} {n : Nat} {ms : List Nat} (hpiece : Piece piece n)
      (hrest : ∃ inside, tail = inside ++ '"' :: rest ∧ Inside inside ms) :
      ∃ inside, piece ++ tail = inside ++ '"' :: rest ∧ Inside inside (n :: ms) := by
    obtain ⟨inside, rfl, hinside⟩ := hrest
    exact ⟨piece ++ inside, by rw [List.append_assoc], .cons hpiece hinside⟩
  -- three of the branches take a piece, and one finds the quote
  fun_induction readNumbers cs generalizing ns with
  | case1 => cases h
  | case2 cs =>
    cases h
    exact ⟨[], rfl, .nil⟩
  | case3 a b c d cs ih =>
    obtain ⟨n, hn, h⟩ := Option.bind_eq_some_iff.1 h
    obtain ⟨⟨ms, rest'⟩, hread, h⟩ := Option.bind_eq_some_iff.1 h
    cases h
    exact hcons (.digits hn) (ih hread)
  | case4 e cs hne ih =>
    obtain ⟨c, hc, h⟩ := Option.bind_eq_some_iff.1 h
    obtain ⟨⟨ms, rest'⟩, hread, h⟩ := Option.bind_eq_some_iff.1 h
    cases h
    exact hcons (.letter hc) (ih hread)
  | case5 c cs hquote _ _ hbad => cases h
  | case6 c cs hquote _ _ hgood ih =>
    obtain ⟨⟨ms, rest'⟩, hread, h⟩ := Option.bind_eq_some_iff.1 h
    cases h
    simp only [Bool.or_eq_true, decide_eq_true_eq, beq_iff_eq, not_or, Nat.not_lt] at hgood
    exact hcons (.plain hquote hgood.2 hgood.1) (ih hread)

/-- `readNumbers` reads the `Inside` of a string up to its quote, and nothing else. -/
theorem readNumbers_eq_some_iff {cs rest : List Char} {ns : List Nat} :
    readNumbers cs = some (ns, rest) ↔ ∃ inside, cs = inside ++ '"' :: rest ∧ Inside inside ns := by
  constructor
  · exact exists_inside_of_readNumbers
  · rintro ⟨inside, rfl, hinside⟩
    induction hinside with
    | nil => rfl
    | cons hpiece _ ih =>
      rw [List.append_assoc, readNumbers_piece hpiece, ih]
      rfl

/-! ## The parts of a number -/

/-- Some digits, and at least one. -/
def IsDigits (ds : List Char) : Prop := ds ≠ [] ∧ ∀ d ∈ ds, d.isDigit = true

/-- The digits before the point: a single zero, or digits that start with none. -/
def IsWholePart (ds : List Char) : Prop := ds = ['0'] ∨ IsDigits ds ∧ ds.head? ≠ some '0'

/-- A point with places behind it, or nothing. -/
inductive Places : List Char → (places : List Char) → Prop where
  | absent : Places [] []
  | present {ds : List Char} (h : IsDigits ds) : Places ('.' :: ds) ds

/-- A power of ten, perhaps with a sign, or nothing. -/
inductive Power : List Char → (power : Option Int) → Prop where
  | absent : Power [] none
  | present {e : Char} {sign ds : List Char} (he : e = 'e' ∨ e = 'E')
      (hsign : sign = [] ∨ sign = ['+'] ∨ sign = ['-']) (hds : IsDigits ds) :
      Power (e :: (sign ++ ds))
        (some (if sign = ['-'] then -(Text.numeral ds 0 : Int) else (Text.numeral ds 0 : Int)))

/-- The sign of a number. -/
def minus (negative : Bool) : List Char := if negative then ['-'] else []

/-- A number as it is spelled, and its value. With places or a power it is a fraction, and without
    them a whole number, which must not be too long. -/
inductive Figure : List Char → Json → Prop where
  | whole (negative : Bool) {ds : List Char} (hds : IsWholePart ds)
      (hlength : ds.length ≤ Whole.maxDigits) :
      Figure (minus negative ++ ds)
        (.int (if negative then -(Text.numeral ds 0 : Int) else (Text.numeral ds 0 : Int)))
  | fraction (negative : Bool) {ds ps pw places : List Char} {power : Option Int}
      (hds : IsWholePart ds) (hplaces : Places ps places) (hpower : Power pw power)
      (hsome : places ≠ [] ∨ power ≠ none) :
      Figure (minus negative ++ (ds ++ (ps ++ pw)))
        (.float (.ofDecimal negative (Text.numeral (ds ++ places) 0)
          (power.getD 0 - (places.length : Int))))

/-- What may follow a value: nothing, or a gap, a comma or a closing bracket. -/
def Closes (rest : List Char) : Prop :=
  ∀ c ∈ rest.head?, c ∈ [' ', '\t', '\n', '\r', ',', ']', '\x7d']

theorem closes_nil : Closes [] := by
  intro c hc
  cases hc

theorem closes_cons {c : Char} {cs : List Char} :
    Closes (c :: cs) ↔ c ∈ [' ', '\t', '\n', '\r', ',', ']', '\x7d'] := by
  simp [Closes]

/-- What `Closes` a value does not go on with a number. -/
private theorem Closes.head_ne {rest : List Char} (h : Closes rest) {c : Char}
    (hc : c ∈ rest.head?) :
    c.isDigit = false ∧ c ≠ '.' ∧ c ≠ 'e' ∧ c ≠ 'E' := by
  have hmem := h c hc
  simp only [List.mem_cons, List.not_mem_nil, or_false] at hmem
  rcases hmem with rfl | rfl | rfl | rfl | rfl | rfl | rfl <;> decide

section

variable {rest : List Char}

/-- Digits are taken up to the first character that is none. -/
private theorem span_isDigit_append {ds : List Char} (hds : ∀ d ∈ ds, d.isDigit = true)
    (hrest : ∀ c ∈ rest.head?, c.isDigit = false) :
    (ds ++ rest).span Char.isDigit = (ds, rest) := by
  rw [List.span_eq_takeWhile_dropWhile, List.takeWhile_append_of_pos hds,
    List.dropWhile_append_of_pos hds]
  cases rest with
  | nil => simp
  | cons c cs =>
    have hc := hrest c rfl
    simp [hc]

/-- `takeWholePart` takes the digits before the point, up to what is no digit. -/
private theorem takeWholePart_append {ds : List Char} (hds : IsWholePart ds)
    (hrest : ∀ c ∈ rest.head?, c.isDigit = false) :
    takeWholePart (ds ++ rest) = some (ds, rest) := by
  rcases hds with rfl | ⟨⟨hne, hdigits⟩, hzero⟩
  · rfl
  · have hspan := span_isDigit_append hdigits hrest
    obtain ⟨d, ds, rfl⟩ := List.exists_cons_of_ne_nil hne
    rw [List.cons_append] at hspan ⊢
    rw [takeWholePart, if_pos (hdigits d List.mem_cons_self), hspan]
    exact fun h => hzero (congrArg some h)

/-- `takePlaces` takes the point and the digits behind it, or nothing. -/
theorem takePlaces_append {ps places : List Char} (h : Places ps places)
    (hrest : ∀ c ∈ rest.head?, c.isDigit = false ∧ c ≠ '.') :
    takePlaces (ps ++ rest) = (places, rest) := by
  cases h with
  | absent =>
    rw [List.nil_append]
    unfold takePlaces
    -- what follows does not start with a point
    split
    · rename_i c cs
      exact absurd rfl (hrest '.' rfl).2
    · rfl
  | present hdigits =>
    have hspan := span_isDigit_append hdigits.2 fun c hc => (hrest c hc).1
    obtain ⟨d, ds, rfl⟩ := List.exists_cons_of_ne_nil hdigits.1
    rw [List.cons_append] at hspan
    rw [List.cons_append, List.cons_append, takePlaces, if_pos (hdigits.2 d List.mem_cons_self),
      hspan]

/-- `takeSign` takes a sign off the digits behind it. -/
theorem takeSign_append {sign ds : List Char} (hsign : sign = [] ∨ sign = ['+'] ∨ sign = ['-'])
    (hds : IsDigits ds) :
    Whole.takeSign (sign ++ (ds ++ rest)) = (decide (sign = ['-']), ds ++ rest) := by
  rcases hsign with rfl | rfl | rfl
  · -- digits are no signs
    obtain ⟨d, ds, rfl⟩ := List.exists_cons_of_ne_nil hds.1
    have hd := hds.2 d List.mem_cons_self
    have hplus : d ≠ '+' := by
      rintro rfl
      cases hd
    have hminus : d ≠ '-' := by
      rintro rfl
      cases hd
    simp [Whole.takeSign, hplus, hminus]
  · rfl
  · rfl

/-- `takePower` takes a power, or nothing if there is none. -/
private theorem takePower_append {pw : List Char} {power : Option Int} (h : Power pw power)
    (hrest : ∀ c ∈ rest.head?, c.isDigit = false ∧ c ≠ 'e' ∧ c ≠ 'E') :
    takePower (pw ++ rest) = (power, rest) := by
  cases h with
  | absent =>
    cases rest with
    | nil => rfl
    | cons c cs =>
      obtain ⟨-, he, hE⟩ := hrest c rfl
      simp [takePower, he, hE]
  | @present e sign ds he hsign hds =>
    have hmark : (e == 'e' || e == 'E') = true := by simpa using he
    have hspan := span_isDigit_append hds.2 fun c hc => (hrest c hc).1
    rw [List.cons_append, List.append_assoc, takePower]
    simp only [hmark, if_true, takeSign_append hsign hds, hspan]
    -- there is a digit, so the power is not left unread
    obtain ⟨d, ds, rfl⟩ := List.exists_cons_of_ne_nil hds.1
    simp only [decide_eq_true_eq]

end

/-! ## What is taken off a text -/

section

variable {cs rest : List Char}

/-- What a span of digits takes `IsDigits`, if there is any. -/
private theorem isDigits_of_span {ds : List Char} (hspan : cs.span Char.isDigit = (ds, rest))
    (hne : ds ≠ []) : cs = ds ++ rest ∧ IsDigits ds := by
  rw [List.span_eq_takeWhile_dropWhile] at hspan
  obtain ⟨rfl, rfl⟩ := Prod.mk.inj hspan
  exact ⟨List.takeWhile_append_dropWhile.symm, hne, fun d hd => List.mem_takeWhile_imp hd⟩

/-- Of a text that starts with a digit a span takes at least this one. -/
private theorem isDigits_of_span_cons {c : Char} {ds : List Char} (hc : c.isDigit = true)
    (hspan : (c :: cs).span Char.isDigit = (ds, rest)) :
    c :: cs = ds ++ rest ∧ IsDigits ds ∧ ds.head? = some c := by
  have hfirst : ds.head? = some c := by
    rw [List.span_eq_takeWhile_dropWhile] at hspan
    rw [← (Prod.mk.inj hspan).1, List.takeWhile_cons_of_pos hc]
    rfl
  have hne : ds ≠ [] := by
    rintro rfl
    cases hfirst
  obtain ⟨hcs, hds⟩ := isDigits_of_span hspan hne
  exact ⟨hcs, hds, hfirst⟩

/-- What `takeWholePart` takes `IsWholePart`. -/
private theorem isWholePart_of_takeWholePart {ds : List Char}
    (h : takeWholePart cs = some (ds, rest)) :
    cs = ds ++ rest ∧ IsWholePart ds := by
  unfold takeWholePart at h
  -- a single zero, or digits that start with another one
  split at h
  · cases h
    exact ⟨rfl, .inl rfl⟩
  · rename_i c cs hzero
    split at h
    · rename_i hc
      obtain ⟨hcs, hds, hfirst⟩ := isDigits_of_span_cons hc (Option.some.inj h)
      refine ⟨hcs, .inr ⟨hds, ?_⟩⟩
      rw [hfirst]
      exact fun h => hzero (Option.some.inj h)
    · cases h
  · cases h

/-- What `takePlaces` takes are `Places`. -/
private theorem exists_places_of_takePlaces {places : List Char}
    (h : takePlaces cs = (places, rest)) :
    ∃ ps, cs = ps ++ rest ∧ Places ps places := by
  unfold takePlaces at h
  split at h
  · rename_i c cs
    -- a point with no digit behind it is no place
    split at h
    · rename_i hc
      obtain ⟨hcs, hds, -⟩ := isDigits_of_span_cons hc h
      exact ⟨'.' :: places, by rw [hcs, List.cons_append], .present hds⟩
    · cases h
      exact ⟨[], rfl, .absent⟩
  · cases h
    exact ⟨[], rfl, .absent⟩

/-- What `takeSign` takes is a sign, or nothing. -/
private theorem exists_sign_of_takeSign (cs : List Char) :
    ∃ sign, (sign = [] ∨ sign = ['+'] ∨ sign = ['-']) ∧
      cs = sign ++ (Whole.takeSign cs).2 ∧ (Whole.takeSign cs).1 = decide (sign = ['-']) := by
  unfold Whole.takeSign
  split
  · exact ⟨['+'], .inr (.inl rfl), rfl, rfl⟩
  · exact ⟨['-'], .inr (.inr rfl), rfl, rfl⟩
  · exact ⟨[], .inl rfl, rfl, rfl⟩

/-- What `takePower` takes is a `Power`. -/
private theorem exists_power_of_takePower {power : Option Int} (h : takePower cs = (power, rest)) :
    ∃ pw, cs = pw ++ rest ∧ Power pw power := by
  have habsent : ∃ pw, cs = pw ++ cs ∧ Power pw none := ⟨[], rfl, .absent⟩
  unfold takePower at h
  split at h
  · rename_i e tail
    split at h
    · rename_i hmark
      obtain ⟨sign, hsign, htail, hnegative⟩ := exists_sign_of_takeSign tail
      simp only [hnegative, decide_eq_true_eq] at h
      -- without digits behind the letter and the sign nothing is taken
      split at h
      · cases h
        exact habsent
      · rename_i ds rest' hne hspan
        obtain ⟨hdigits, hds⟩ := isDigits_of_span hspan hne
        cases h
        refine ⟨e :: (sign ++ ds), ?_, .present (by simpa using hmark) hsign hds⟩
        rw [htail, hdigits, List.cons_append, List.append_assoc]
    · cases h
      exact habsent
  · cases h
    exact habsent

end

/-! ## Numbers -/

/-- Reads a number behind its sign. -/
def readUnsigned (negative : Bool) (body : List Char) : Option (Json × List Char) := do
  let (whole, rest) ← takeWholePart body
  let (places, rest) := takePlaces rest
  let (power, rest) := takePower rest
  if places.isEmpty && power.isNone then
    if Whole.maxDigits < whole.length then none
    else
      let n : Int := Text.numeral whole 0
      return (.int (if negative then -n else n), rest)
  else
    let digits := Text.numeral (whole ++ places) 0
    return (.float (.ofDecimal negative digits (power.getD 0 - places.length)), rest)

/-- `readNumber` is `readUnsigned` behind a sign, if there is one. -/
private theorem exists_readUnsigned (cs : List Char) :
    ∃ negative body, cs = minus negative ++ body ∧ readNumber cs = readUnsigned negative body := by
  unfold readNumber
  split
  rename_i negative body hsign
  refine ⟨negative, body, ?_, rfl⟩
  split at hsign
  · cases hsign
    rfl
  · cases hsign
    rfl

/-- The sign in front of a digit is taken for the sign of the number. -/
private theorem readNumber_minus_append {negative : Bool} {body : List Char}
    (h : ∀ c ∈ body.head?, c.isDigit = true) :
    readNumber (minus negative ++ body) = readUnsigned negative body := by
  cases negative with
  | true => rfl
  | false =>
    cases body with
    | nil => rfl
    | cons c cs =>
      -- without a sign, the number starts with a digit and not with a minus
      have hc : c ≠ '-' := by
        rintro rfl
        exact absurd (h '-' rfl) (by decide)
      unfold readNumber
      split
      rename_i negative body hsign
      split at hsign
      · rename_i heq
        exact absurd (List.cons.inj heq).1 hc
      · cases hsign
        rfl

theorem IsWholePart.isDigits {ds : List Char} (h : IsWholePart ds) : IsDigits ds := by
  rcases h with rfl | h
  · refine ⟨List.cons_ne_nil _ _, fun c hc => ?_⟩
    rw [List.mem_singleton.1 hc]
    rfl
  · exact h.1

/-- Digits in front of a text make its first character one. -/
private theorem IsDigits.head_append {ds : List Char} (h : IsDigits ds) (rest : List Char) :
    ∀ c ∈ (ds ++ rest).head?, c.isDigit = true := by
  obtain ⟨d, ds, rfl⟩ := List.exists_cons_of_ne_nil h.1
  intro c hc
  cases hc
  exact h.2 _ List.mem_cons_self

/-- What `readNumber` reads is spelled like a `Figure`. -/
theorem exists_figure_of_readNumber {cs rest : List Char} {v : Json}
    (h : readNumber cs = some (v, rest)) : ∃ figure, cs = figure ++ rest ∧ Figure figure v := by
  obtain ⟨negative, body, rfl, hread⟩ := exists_readUnsigned cs
  rw [hread] at h
  obtain ⟨⟨ds, behind⟩, hwhole, hvalue⟩ := Option.bind_eq_some_iff.1 h
  obtain ⟨rfl, hds⟩ := isWholePart_of_takeWholePart hwhole
  rcases hplaces : takePlaces behind with ⟨places, behind'⟩
  obtain ⟨ps, rfl, hps⟩ := exists_places_of_takePlaces hplaces
  rcases hpower : takePower behind' with ⟨power, behind''⟩
  obtain ⟨pw, rfl, hpw⟩ := exists_power_of_takePower hpower
  simp only [hplaces, hpower] at hvalue
  split at hvalue
  · -- without places and a power nothing stands behind the digits
    rename_i hnone
    simp only [Bool.and_eq_true, List.isEmpty_iff, Option.isNone_iff_eq_none] at hnone
    obtain ⟨rfl, rfl⟩ := hnone
    split at hvalue
    · cases hvalue
    · rename_i hlength
      cases hvalue
      cases hps with
      | absent =>
        cases hpw
        exact ⟨_, by simp, .whole negative hds (Nat.le_of_not_lt hlength)⟩
      | present hdigits => exact absurd rfl hdigits.1
  · rename_i hsome
    simp only [Bool.and_eq_true, List.isEmpty_iff, Option.isNone_iff_eq_none, not_and_or] at hsome
    cases hvalue
    exact ⟨_, by simp, .fraction negative hds hps hpw hsome⟩

/-- Behind the digits before the point there is no other digit. -/
private theorem head_places_append {ps pw places rest : List Char} {power : Option Int}
    (hps : Places ps places) (hpw : Power pw power) (hrest : Closes rest) :
    (∀ c ∈ (ps ++ (pw ++ rest)).head?, c.isDigit = false) ∧
      ∀ c ∈ (pw ++ rest).head?, c.isDigit = false ∧ c ≠ '.' := by
  have hpower : ∀ c ∈ (pw ++ rest).head?, c.isDigit = false ∧ c ≠ '.' := by
    intro c hc
    cases hpw with
    | absent => exact ⟨(hrest.head_ne hc).1, (hrest.head_ne hc).2.1⟩
    | present he =>
      cases hc
      rcases he with rfl | rfl <;> decide
  -- without places, what comes first is what comes first in the power
  refine ⟨fun c hc => ?_, hpower⟩
  cases hps with
  | absent => exact (hpower c hc).1
  | present =>
    cases hc
    rfl

/-- `readNumber` reads a `Figure` as a whole, if what follows `Closes` a value. -/
theorem readNumber_append {figure rest : List Char} {v : Json} (h : Figure figure v)
    (hrest : Closes rest) : readNumber (figure ++ rest) = some (v, rest) := by
  cases h with
  | @whole negative ds hds hlength =>
    -- nothing of what follows is taken for places or for a power
    obtain ⟨hdigit, hpoint⟩ := head_places_append .absent .absent hrest
    have hpower := takePower_append .absent fun c hc =>
      ⟨(hrest.head_ne hc).1, (hrest.head_ne hc).2.2⟩
    have hplaces := takePlaces_append .absent hpoint
    simp only [List.nil_append] at hdigit hplaces hpower
    rw [List.append_assoc, readNumber_minus_append (hds.isDigits.head_append rest), readUnsigned,
      takeWholePart_append hds hdigit]
    simp only [bind, Option.bind, pure, hplaces, hpower, List.isEmpty_nil, Option.isNone_none,
      Bool.and_self, if_true, Nat.not_lt.2 hlength, if_false]
  | @fraction negative ds ps pw places power hds hps hpw hsome =>
    -- each part ends where the next one starts
    obtain ⟨hdigit, hpoint⟩ := head_places_append hps hpw hrest
    have hpower := takePower_append hpw fun c hc =>
      ⟨(hrest.head_ne hc).1, (hrest.head_ne hc).2.2⟩
    have hplaces := takePlaces_append hps hpoint
    have hfraction : (places.isEmpty && power.isNone) = false := by
      rcases hsome with hne | hne
      · simp [hne]
      · simp [Option.isNone_eq_false_iff, Option.isSome_iff_ne_none.2 hne]
    rw [List.append_assoc, List.append_assoc, List.append_assoc,
      readNumber_minus_append (hds.isDigits.head_append _), readUnsigned,
      takeWholePart_append hds hdigit]
    simp only [bind, Option.bind, pure, hplaces, hpower, hfraction, Bool.false_eq_true, if_false]

end Gamebook.Json

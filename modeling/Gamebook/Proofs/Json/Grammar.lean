import Gamebook.Proofs.Json.Spelling

/-!
# The grammar of JSON

Which texts hold a value, and which value. `Spells` says so by the shape of the text alone: a word,
a string or a number, or a row of values or fields between brackets, with gaps wherever there may be
some. It is a recursion on the levels that may be opened, and there are no steps and no rest in it.

An object is spelled by its fields, in the order in which they stand in the text. A name may come
more than once; the value that the object has for it is then the last one.

## Key results

- `readValue_append`: what is spelled is read, and the rest is left alone
- `exists_spells_of_readValue`: what is read is spelled
- `parse_eq_some_iff`: the reader takes exactly the texts of the grammar
- `document_obj_iff`: the texts that hold an object
- `get?_putAll_eq_some_iff`: an object has the last value of each name
-/

namespace Gamebook.Json

/-! ## The grammar -/

/-- Spaces, tabs and line ends, or nothing. -/
def IsGap (gap : List Char) : Prop := ∀ c ∈ gap, c ∈ [' ', '\t', '\n', '\r']

section

variable {α : Type} (P : List Char → α → Prop)

/-- Something with gaps around it. -/
inductive Padded : List Char → α → Prop where
  | between {before text after : List Char} {a : α} (hbefore : IsGap before) (h : P text a)
      (hafter : IsGap after) : Padded (before ++ (text ++ after)) a

/-- Some things one after the other, with a comma between two of them and with gaps around each. -/
inductive Row : List Char → List α → Prop where
  | one {cs : List Char} {a : α} (h : Padded P cs a) : Row cs [a]
  | more {cs rest : List Char} {a : α} {as : List α} (first : Padded P cs a)
      (others : Row rest as) : Row (cs ++ ',' :: rest) (a :: as)

/-- A row between two brackets, or a gap between them. -/
inductive Bracketed (left right : Char) : List Char → List α → Prop where
  | empty {gap : List Char} (h : IsGap gap) : Bracketed left right (left :: (gap ++ [right])) []
  | row {inside : List Char} {as : List α} (h : Row P inside as) :
      Bracketed left right (left :: (inside ++ [right])) as

end

/-- A field of an object: its name as a string, a colon and its value. -/
inductive Field (P : List Char → Json → Prop) : List Char → Wording × Json → Prop where
  | named {inside gap gap' text : List Char} {ns : List Nat} {v : Json} (hname : Inside inside ns)
      (hgap : IsGap gap) (hgap' : IsGap gap') (hvalue : P text v) :
      Field P ('"' :: (inside ++ '"' :: (gap ++ ':' :: (gap' ++ text)))) (.ofNumbers ns, v)

/-- The values that are neither lists nor objects. -/
inductive Atom : List Char → Json → Prop where
  | null : Atom ['n', 'u', 'l', 'l'] .null
  | yes : Atom ['t', 'r', 'u', 'e'] (.bool true)
  | no : Atom ['f', 'a', 'l', 's', 'e'] (.bool false)
  | notNumber : Atom ['N', 'a', 'N'] (.float .nan)
  | infinite (negative : Bool) :
      Atom (minus negative ++ ['I', 'n', 'f', 'i', 'n', 'i', 't', 'y'])
        (.float (.infinite negative))
  | string {inside : List Char} {ns : List Nat} (h : Inside inside ns) :
      Atom ('"' :: (inside ++ ['"'])) (.str (.ofNumbers ns))
  | number {figure : List Char} {v : Json} (h : Figure figure v) : Atom figure v

/-- The table that fields make when they are put into another one, one after the other. -/
def putAll (before : Table Wording Json) (fields : List (Wording × Json)) : Table Wording Json :=
  fields.foldl (fun t field => Table.put t field.1 field.2) before

/-- A text spells a value in which at most `levels` lists and objects stand inside one another. -/
def Spells : (levels : Nat) → List Char → Json → Prop
  | 0, cs, v => Atom cs v
  | levels + 1, cs, v =>
    Atom cs v ∨
    (∃ items, v = .arr items ∧ Bracketed (Spells levels) '[' ']' cs items) ∨
    ∃ fields, v = .obj (putAll [] fields) ∧
      Bracketed (Field (Spells levels)) '\x7b' '\x7d' cs fields

/-- A text holds a value, with nothing but gaps around it. Inside of its outermost list or object,
    at most `inner` more stand inside one another. -/
def Document (inner : Nat) (cs : List Char) (v : Json) : Prop := Padded (Spells (inner + 1)) cs v

/-- A text holds an object that is spelled by these fields, with nothing but gaps around it. -/
def ObjectDocument (inner : Nat) (cs : List Char) (fields : List (Wording × Json)) : Prop :=
  Padded (Bracketed (Field (Spells inner)) '\x7b' '\x7d') cs fields

/-! ## Gaps -/

section

variable {gap cs : List Char}

/-- `skipGap` skips a gap, and goes on behind it. -/
private theorem skipGap_append (h : IsGap gap) (cs : List Char) :
    skipGap (gap ++ cs) = skipGap cs := by
  refine List.dropWhile_append_of_pos fun c hc => ?_
  have hmem := h c hc
  simp only [List.mem_cons, List.not_mem_nil, or_false] at hmem
  rcases hmem with rfl | rfl | rfl | rfl <;> rfl

/-- `skipGap` skips nothing where no gap starts. -/
private theorem skipGap_cons {c : Char} (h : c ∉ [' ', '\t', '\n', '\r']) (cs : List Char) :
    skipGap (c :: cs) = c :: cs := by
  simp only [List.mem_cons, List.not_mem_nil, or_false, not_or] at h
  simp [skipGap, h]

private theorem skipGap_of_isGap (h : IsGap gap) : skipGap gap = [] := by
  have hskip := skipGap_append h []
  rwa [List.append_nil] at hskip

/-- What `skipGap` skips is a gap. -/
private theorem exists_gap (cs : List Char) : ∃ gap, IsGap gap ∧ cs = gap ++ skipGap cs := by
  refine ⟨cs.takeWhile fun c => c == ' ' || c == '\t' || c == '\n' || c == '\r', fun c hc => ?_, ?_⟩
  · have hgap := List.mem_takeWhile_imp hc
    simpa [or_assoc] using hgap
  · exact List.takeWhile_append_dropWhile.symm

/-- Behind a value there may be a gap, and then what else `Closes` it. -/
private theorem IsGap.closes_append (h : IsGap gap) (hcs : Closes cs) : Closes (gap ++ cs) := by
  cases gap with
  | nil => exact hcs
  | cons c gap =>
    have hc := h c List.mem_cons_self
    rw [List.cons_append, closes_cons]
    simp only [List.mem_cons, List.not_mem_nil, or_false] at hc ⊢
    rcases hc with rfl | rfl | rfl | rfl <;> simp

end

/-! ## Where values start -/

/-- A text that is not empty and has no gap at its start. -/
def Starts (cs : List Char) : Prop := ∃ c tail, cs = c :: tail ∧ c ∉ [' ', '\t', '\n', '\r']

/-- `skipGap` skips nothing of a text that `Starts` at once. -/
private theorem Starts.skipGap_append {cs : List Char} (h : Starts cs) (rest : List Char) :
    skipGap (cs ++ rest) = cs ++ rest := by
  obtain ⟨c, tail, rfl, hgap⟩ := h
  exact skipGap_cons hgap _

private theorem Starts.length_pos {cs : List Char} (h : Starts cs) : 0 < cs.length := by
  obtain ⟨c, tail, rfl, -⟩ := h
  exact Nat.succ_pos _

/-- A `Figure` starts with a digit, or with a minus and a digit. -/
private theorem Figure.exists_cons {figure : List Char} {v : Json} (h : Figure figure v) :
    ∃ c cs, figure = c :: cs ∧
      (c.isDigit = true ∨ c = '-' ∧ ∃ d ds, cs = d :: ds ∧ d.isDigit = true) := by
  -- all that counts is the first digit behind the sign
  have hsigned (negative : Bool) {ds : List Char} (hds : IsWholePart ds) (rest : List Char) :
      ∃ c cs, minus negative ++ (ds ++ rest) = c :: cs ∧
        (c.isDigit = true ∨ c = '-' ∧ ∃ d ds, cs = d :: ds ∧ d.isDigit = true) := by
    obtain ⟨hne, hdigits⟩ := hds.isDigits
    obtain ⟨d, ds, rfl⟩ := List.exists_cons_of_ne_nil hne
    have hd := hdigits d List.mem_cons_self
    cases negative with
    | true => exact ⟨'-', _, rfl, .inr ⟨rfl, d, ds ++ rest, rfl, hd⟩⟩
    | false => exact ⟨d, _, rfl, .inl hd⟩
  cases h with
  | whole negative hds =>
    have hwhole := hsigned negative hds []
    rwa [List.append_nil] at hwhole
  | fraction negative hds => exact hsigned negative hds _

theorem Atom.starts {cs : List Char} {v : Json} (h : Atom cs v) : Starts cs := by
  cases h with
  | infinite negative => cases negative <;> exact ⟨_, _, rfl, by decide⟩
  | number h =>
    obtain ⟨c, tail, rfl, hc⟩ := h.exists_cons
    refine ⟨c, tail, rfl, ?_⟩
    -- a digit is no blank, nor is a minus
    rcases hc with hc | ⟨rfl, -⟩
    · intro hmem
      simp only [List.mem_cons, List.not_mem_nil, or_false] at hmem
      rcases hmem with rfl | rfl | rfl | rfl <;> cases hc
    · decide
  | _ => exact ⟨_, _, rfl, by decide⟩

/-- What is `Bracketed` starts with its bracket. -/
private theorem Bracketed.exists_cons {α : Type} {P : List Char → α → Prop} {left right : Char}
    {cs : List Char} {as : List α} (h : Bracketed P left right cs as) :
    ∃ tail, cs = left :: tail := by
  cases h <;> exact ⟨_, rfl⟩

theorem Spells.starts {levels : Nat} {cs : List Char} {v : Json} (h : Spells levels cs v) :
    Starts cs := by
  cases levels with
  | zero => exact Atom.starts h
  | succ levels =>
    rcases h with h | ⟨items, -, h⟩ | ⟨fields, -, h⟩
    · exact h.starts
    · obtain ⟨tail, rfl⟩ := h.exists_cons
      exact ⟨_, _, rfl, by decide⟩
    · obtain ⟨tail, rfl⟩ := h.exists_cons
      exact ⟨_, _, rfl, by decide⟩

theorem Field.starts {P : List Char → Json → Prop} {cs : List Char} {field : Wording × Json}
    (h : Field P cs field) : Starts cs := by
  cases h
  exact ⟨_, _, rfl, by decide⟩

/-- What is `Padded` comes to the front once the first gap is skipped. -/
private theorem Padded.exists_skipGap {α : Type} {P : List Char → α → Prop} {cs : List Char} {a : α}
    (h : Padded P cs a) (hstarts : ∀ text, P text a → Starts text) (rest : List Char) :
    ∃ text after, P text a ∧ IsGap after ∧ text.length ≤ cs.length ∧
      skipGap (cs ++ rest) = text ++ (after ++ rest) := by
  cases h with
  | @between before text after _ hbefore htext hafter =>
    refine ⟨text, after, htext, hafter, ?_, ?_⟩
    · simp only [List.length_append]
      omega
    · rw [List.append_assoc, skipGap_append hbefore, List.append_assoc,
        (hstarts text htext).skipGap_append]

/-! ## What is spelled is read -/

/-- `readValue` takes what starts like a number for one. -/
private theorem readValue_of_digit {c : Char} {cs : List Char}
    (hc : c.isDigit = true ∨ c = '-' ∧ ∃ d ds, cs = d :: ds ∧ d.isDigit = true)
    (steps levels : Nat) : readValue (steps + 1) levels (c :: cs) = readNumber (c :: cs) := by
  have hother {m : Char} (hm : m.isDigit = false) (hminus : m ≠ '-') (tail : List Char) :
      c :: cs ≠ m :: tail := by
    rintro heq
    obtain ⟨rfl, -⟩ := List.cons.inj heq
    rcases hc with hc | ⟨hc, -⟩
    · rw [hc] at hm
      cases hm
    · exact hminus hc
  have hinfinite (tail : List Char) : c :: cs ≠ '-' :: 'I' :: tail := by
    rintro heq
    obtain ⟨rfl, htail⟩ := List.cons.inj heq
    rcases hc with hc | ⟨-, d, ds, rfl, hd⟩
    · cases hc
    · obtain ⟨rfl, -⟩ := List.cons.inj htail
      cases hd
  -- every other branch asks for a first character that is neither a digit nor a minus
  rw [readValue.eq_def]
  dsimp only
  split
  case h_11 heq => exact absurd heq (hinfinite _)
  case h_12 => rfl
  all_goals exact absurd ‹c :: cs = _› (hother rfl (by decide) _)

/-- `readString` reads the `Inside` of a string and its quote, whatever follows. -/
private theorem readString_append {inside : List Char} {ns : List Nat} (h : Inside inside ns)
    (rest : List Char) : readString (inside ++ '"' :: rest) = some (.ofNumbers ns, rest) := by
  have hread : readNumbers (inside ++ '"' :: rest) = some (ns, rest) :=
    readNumbers_eq_some_iff.2 ⟨inside, rfl, h⟩
  simp only [readString, hread, bind, Option.bind, pure]

/-- `readValue` reads an `Atom`, in front of what `Closes` it. -/
private theorem readValue_atom {text rest : List Char} {v : Json} (h : Atom text v)
    (hrest : Closes rest)
    (steps levels : Nat) : readValue (steps + 1) levels (text ++ rest) = some (v, rest) := by
  cases h with
  | null => simp [readValue]
  | yes => simp [readValue]
  | no => simp [readValue]
  | notNumber => simp [readValue]
  | infinite negative => cases negative <;> simp [minus, readValue]
  | string h =>
    have hstring := readString_append h rest
    simp [readValue, hstring]
  | number h =>
    have hread := readNumber_append h hrest
    obtain ⟨c, cs, rfl, hc⟩ := h.exists_cons
    -- a minus with a digit behind it is not taken for the infinite
    have hc' : c.isDigit = true ∨ c = '-' ∧ ∃ d ds, cs ++ rest = d :: ds ∧ d.isDigit = true := by
      rcases hc with hc | ⟨rfl, d, ds, rfl, hd⟩
      · exact .inl hc
      · exact .inr ⟨rfl, d, ds ++ rest, rfl, hd⟩
    rw [List.cons_append] at hread ⊢
    rw [readValue_of_digit hc', hread]

/-- What the reader does behind an item: `before` holds the items read so far, the last one
    first. -/
def afterItem (steps levels : Nat) (before : List Json) (rest : List Char) :
    Option (Json × List Char) :=
  match skipGap rest with
  | ']' :: rest => some (.arr before.reverse, rest)
  | ',' :: rest => readItems steps levels before (skipGap rest)
  | _ => none

/-- Behind an item `readItems` goes on as in `afterItem`. -/
private theorem readItems_of_readValue {steps levels : Nat} {before : List Json} {item : Json}
    {cs rest : List Char} (h : readValue steps levels cs = some (item, rest)) :
    readItems (steps + 1) levels before cs = afterItem steps levels (item :: before) rest := by
  simp only [readItems, h, bind, Option.bind, pure]
  rfl

/-- What the reader does behind a field: `before` holds the fields read so far. -/
def afterField (steps levels : Nat) (before : Table Wording Json) (rest : List Char) :
    Option (Json × List Char) :=
  match skipGap rest with
  | '\x7d' :: rest => some (.obj before, rest)
  | ',' :: rest => readFields steps levels before (skipGap rest)
  | _ => none

/-- Values of these levels are read from the front of any text, with steps enough. A value takes no
    more than two steps for each of its characters. -/
def ReadsBack (levels : Nat) : Prop :=
  ∀ {steps : Nat} {text rest : List Char} {v : Json}, Spells levels text v → Closes rest →
    2 * text.length ≤ steps → readValue steps levels (text ++ rest) = some (v, rest)

section

variable {gap rest : List Char} {mark : Char}

/-- The marks that come behind values. -/
private theorem closes_mark (h : mark ∈ [',', ']', '\x7d']) : Closes (mark :: rest) := by
  rw [closes_cons]
  exact List.mem_append_right [' ', '\t', '\n', '\r'] h

/-- A mark behind a value comes to the front once the gap is skipped. -/
private theorem skipGap_mark (hgap : IsGap gap) (h : mark ∈ [',', ']', '\x7d', ':']) :
    skipGap (gap ++ mark :: rest) = mark :: rest := by
  rw [skipGap_append hgap]
  simp only [List.mem_cons, List.not_mem_nil, or_false] at h
  rcases h with rfl | rfl | rfl | rfl <;> rfl

end

section

variable {levels : Nat} (hread : ReadsBack levels)

include hread

/-- `readItems` reads a row of values up to the bracket behind it. -/
private theorem readItems_append {inside : List Char} {items : List Json}
    (h : Row (Spells levels) inside items) (rest : List Char) {steps : Nat} (before : List Json)
    (hsteps : 2 * inside.length + 1 ≤ steps) :
    readItems steps levels before (skipGap (inside ++ ']' :: rest)) =
      some (.arr (before.reverse ++ items), rest) := by
  induction h generalizing steps before with
  | @one cs v h =>
    obtain ⟨text, after, htext, hafter, hlength, hskip⟩ :=
      h.exists_skipGap (fun _ => Spells.starts) (']' :: rest)
    obtain ⟨steps, rfl⟩ : ∃ s, steps = s + 1 := ⟨steps - 1, by omega⟩
    rw [hskip, readItems_of_readValue
      (hread htext (hafter.closes_append (closes_mark (by decide))) (by omega)), afterItem,
      skipGap_mark hafter (by decide)]
    simp only [List.reverse_cons]
  | @more cs others v vs h _ ih =>
    rw [List.length_append, List.length_cons] at hsteps
    rw [List.append_assoc, List.cons_append]
    obtain ⟨text, after, htext, hafter, hlength, hskip⟩ :=
      h.exists_skipGap (fun _ => Spells.starts) (',' :: (others ++ ']' :: rest))
    obtain ⟨steps, rfl⟩ : ∃ s, steps = s + 1 := ⟨steps - 1, by omega⟩
    rw [hskip, readItems_of_readValue
      (hread htext (hafter.closes_append (closes_mark (by decide))) (by omega)), afterItem,
      skipGap_mark hafter (by decide)]
    -- the items behind the comma are a shorter row
    simp only
    rw [ih (v :: before) (by omega), List.reverse_cons, List.append_assoc, List.singleton_append]

/-- `readFields` reads a field up to the end of its value. -/
private theorem readFields_field {text : List Char} {field : Wording × Json}
    (h : Field (Spells levels) text field) {rest : List Char} (hrest : Closes rest) {steps : Nat}
    (before : Table Wording Json) (hsteps : 2 * text.length ≤ steps) :
    readFields (steps + 1) levels before (text ++ rest) =
      afterField steps levels (Table.put before field.1 field.2) rest := by
  cases h with
  | @named inside gap gap' text ns v hname hgap hgap' hspells =>
    simp only [List.length_cons, List.length_append] at hsteps
    -- the name, the colon between two gaps, and the value
    have hstring := readString_append hname (gap ++ ':' :: (gap' ++ (text ++ rest)))
    have hcolon : skipGap (gap ++ ':' :: (gap' ++ (text ++ rest))) = _ :=
      skipGap_mark hgap (by decide)
    have hstart : skipGap (gap' ++ (text ++ rest)) = text ++ rest := by
      rw [skipGap_append hgap', hspells.starts.skipGap_append]
    have hvalue : readValue steps levels (text ++ rest) = some (v, rest) :=
      hread hspells hrest (by omega)
    simp only [List.cons_append, List.append_assoc, readFields, hstring, bind, Option.bind, pure,
      hcolon, hstart, hvalue]
    rfl

/-- `readFields` reads a row of fields up to the bracket behind it, and puts each field into the
    table. -/
private theorem readFields_append {inside : List Char} {fields : List (Wording × Json)}
    (h : Row (Field (Spells levels)) inside fields) (rest : List Char) {steps : Nat}
    (before : Table Wording Json) (hsteps : 2 * inside.length + 1 ≤ steps) :
    readFields steps levels before (skipGap (inside ++ '\x7d' :: rest)) =
      some (.obj (putAll before fields), rest) := by
  induction h generalizing steps before with
  | @one cs field h =>
    obtain ⟨text, after, htext, hafter, hlength, hskip⟩ :=
      h.exists_skipGap (fun _ => Field.starts) ('\x7d' :: rest)
    obtain ⟨steps, rfl⟩ : ∃ s, steps = s + 1 := ⟨steps - 1, by omega⟩
    rw [hskip, readFields_field hread htext (hafter.closes_append (closes_mark (by decide))) before
      (by omega), afterField, skipGap_mark hafter (by decide)]
    rfl
  | @more cs others field fields h _ ih =>
    rw [List.length_append, List.length_cons] at hsteps
    rw [List.append_assoc, List.cons_append]
    obtain ⟨text, after, htext, hafter, hlength, hskip⟩ :=
      h.exists_skipGap (fun _ => Field.starts) (',' :: (others ++ '\x7d' :: rest))
    obtain ⟨steps, rfl⟩ : ∃ s, steps = s + 1 := ⟨steps - 1, by omega⟩
    rw [hskip, readFields_field hread htext (hafter.closes_append (closes_mark (by decide))) before
      (by omega), afterField, skipGap_mark hafter (by decide)]
    -- the fields behind the comma are a shorter row
    exact ih _ (by omega)

end

/-- A gap may be put before what is `Padded`. -/
private theorem Padded.append {α : Type} {P : List Char → α → Prop} {gap cs : List Char} {a : α}
    (hgap : IsGap gap) (h : Padded P cs a) : Padded P (gap ++ cs) a := by
  cases h with
  | between hbefore htext hafter =>
    rw [← List.append_assoc]
    refine .between (fun c hc => ?_) htext hafter
    exact (List.mem_append.1 hc).elim (hgap c) (hbefore c)

/-- A gap may be put before a `Row`. -/
private theorem Row.append {α : Type} {P : List Char → α → Prop} {gap cs : List Char} {as : List α}
    (hgap : IsGap gap) (h : Row P cs as) : Row P (gap ++ cs) as := by
  cases h with
  | one h => exact .one (h.append hgap)
  | more first others =>
    rw [← List.append_assoc]
    exact .more (first.append hgap) others

/-- No value starts with the mark that closes a list. -/
private theorem readItems_close (steps levels : Nat) (before : List Json) (cs : List Char) :
    readItems steps levels before (']' :: cs) = none := by
  have hvalue (steps : Nat) : readValue steps levels (']' :: cs) = none := by
    cases steps <;> rfl
  cases steps with
  | zero => rfl
  | succ steps => simp only [readItems, hvalue, bind, Option.bind]

/-- No field starts with the mark that closes an object. -/
private theorem readFields_close (steps levels : Nat) (before : Table Wording Json)
    (cs : List Char) :
    readFields steps levels before ('\x7d' :: cs) = none := by
  cases steps <;> rfl

/-- What is spelled is read, and the rest of the text is left alone: `ReadsBack` for any number of
    levels. -/
theorem readValue_append (levels : Nat) : ReadsBack levels := by
  -- a list or an object has one level less inside of its brackets
  induction levels with
  | zero =>
    intro steps text rest v h hrest hsteps
    have hpos := (Spells.starts h).length_pos
    obtain ⟨steps, rfl⟩ : ∃ s, steps = s + 1 := ⟨steps - 1, by omega⟩
    exact readValue_atom h hrest steps 0
  | succ levels ih =>
    intro steps text rest v h hrest hsteps
    have hpos := h.starts.length_pos
    obtain ⟨steps, rfl⟩ : ∃ s, steps = s + 1 := ⟨steps - 1, by omega⟩
    rcases h with h | ⟨items, rfl, h⟩ | ⟨fields, rfl, h⟩
    · exact readValue_atom h hrest steps (levels + 1)
    · cases h with
      | @empty gap hgap =>
        have hclose : skipGap (gap ++ ']' :: rest) = _ := skipGap_mark hgap (by decide)
        simp [readValue, hclose]
      | @row inside _ hrow =>
        simp only [List.length_cons, List.length_append, List.length_nil] at hsteps
        have hitems : readItems steps levels [] (skipGap (inside ++ ']' :: rest)) = _ :=
          readItems_append ih hrow rest [] (by omega)
        rw [List.cons_append, List.append_assoc, List.singleton_append, readValue]
        split
        · -- the row is not empty, so its first item does not start with the bracket
          rename_i heq
          rw [heq, readItems_close] at hitems
          cases hitems
        · exact hitems
    · cases h with
      | @empty gap hgap =>
        have hclose : skipGap (gap ++ '\x7d' :: rest) = _ := skipGap_mark hgap (by decide)
        simp [readValue, hclose, putAll]
      | @row inside _ hrow =>
        simp only [List.length_cons, List.length_append, List.length_nil] at hsteps
        have hfields : readFields steps levels [] (skipGap (inside ++ '\x7d' :: rest)) = _ :=
          readFields_append ih hrow rest [] (by omega)
        rw [List.cons_append, List.append_assoc, List.singleton_append, readValue]
        split
        · rename_i heq
          rw [heq, readFields_close] at hfields
          cases hfields
        · exact hfields

/-! ## What is read is spelled -/

theorem Spells.atom {levels : Nat} {cs : List Char} {v : Json} (h : Atom cs v) :
    Spells levels cs v := by
  cases levels with
  | zero => exact h
  | succ levels => exact .inl h

/-- What stands before the rest is spelled: a value, the items of a list with the bracket behind
    them, or the fields of an object with the bracket behind them. -/
structure ReadsSpelled (steps : Nat) : Prop where
  value : ∀ {levels : Nat} {cs rest : List Char} {v : Json},
    readValue steps levels cs = some (v, rest) → ∃ text, cs = text ++ rest ∧ Spells levels text v
  items : ∀ {levels : Nat} {before : List Json} {cs rest : List Char} {v : Json},
    readItems steps levels before cs = some (v, rest) →
      ∃ inside items, cs = inside ++ ']' :: rest ∧ Row (Spells levels) inside items ∧
        v = .arr (before.reverse ++ items)
  fields : ∀ {levels : Nat} {before : Table Wording Json} {cs rest : List Char} {v : Json},
    readFields steps levels before cs = some (v, rest) →
      ∃ inside fields, cs = inside ++ '\x7d' :: rest ∧ Row (Field (Spells levels)) inside fields ∧
        v = .obj (putAll before fields)

theorem isGap_nil : IsGap [] := by
  intro c hc
  cases hc

section

variable {steps : Nat} (ih : ReadsSpelled steps)

include ih

/-- What `readItems` reads is a `Row` of values with the bracket behind it. -/
private theorem exists_row_of_readItems {levels : Nat} {before : List Json} {cs rest : List Char}
    {v : Json}
    (h : readItems (steps + 1) levels before cs = some (v, rest)) :
    ∃ inside items, cs = inside ++ ']' :: rest ∧ Row (Spells levels) inside items ∧
      v = .arr (before.reverse ++ items) := by
  cases hitem : readValue steps levels cs with
  | none =>
    simp only [readItems, hitem, bind, Option.bind] at h
    cases h
  | some read =>
    obtain ⟨item, behind⟩ := read
    rw [readItems_of_readValue hitem, afterItem] at h
    obtain ⟨text, rfl, htext⟩ := ih.value hitem
    obtain ⟨gap, hgap, hbehind⟩ := exists_gap behind
    have hpadded : Padded (Spells levels) (text ++ gap) item := .between isGap_nil htext hgap
    -- behind an item comes the bracket, or a comma and more items
    split at h
    · rename_i heq
      cases h
      refine ⟨text ++ gap, [item], ?_, .one hpadded, by rw [List.reverse_cons]⟩
      rw [hbehind, heq, List.append_assoc]
    · -- the items behind the comma, with the gap that was skipped
      rename_i tail heq
      obtain ⟨gap', hgap', htail⟩ := exists_gap tail
      obtain ⟨inside, items, hinside, hrow, rfl⟩ := ih.items h
      refine ⟨text ++ gap ++ ',' :: (gap' ++ inside), item :: items, ?_,
        .more hpadded (hrow.append hgap'), by simp⟩
      rw [hbehind, heq, htail, hinside]
      simp
    · cases h

/-- What `readFields` reads first is spelled like a `Field`. -/
private theorem exists_field_of_readFields {levels : Nat} {before : Table Wording Json}
    {cs rest : List Char} {v : Json}
    (h : readFields (steps + 1) levels before cs = some (v, rest)) :
    ∃ text field behind, cs = text ++ behind ∧ Field (Spells levels) text field ∧
      afterField steps levels (Table.put before field.1 field.2) behind = some (v, rest) := by
  rw [readFields.eq_def] at h
  dsimp only at h
  split at h
  · rename_i cs
    obtain ⟨⟨name, r⟩, hname, hfield⟩ := Option.bind_eq_some_iff.1 h
    obtain ⟨⟨ns, r'⟩, hnumbers, hpure⟩ := Option.bind_eq_some_iff.1 hname
    cases hpure
    -- the name, the gap before the colon and the value with the gap before it
    obtain ⟨inside, rfl, hinside⟩ := readNumbers_eq_some_iff.1 hnumbers
    obtain ⟨gap, hgap, hr⟩ := exists_gap r
    dsimp only at hfield
    split at hfield
    · rename_i r' hcolon
      obtain ⟨⟨value, behind⟩, hvalue, hafter⟩ := Option.bind_eq_some_iff.1 hfield
      obtain ⟨gap', hgap', hr'⟩ := exists_gap r'
      obtain ⟨text, htext, hspells⟩ := ih.value hvalue
      refine ⟨_, (_, value), behind, ?_, .named hinside hgap hgap' hspells, hafter⟩
      rw [hr, hcolon, hr', htext]
      simp
    · cases hfield
  · cases h

/-- What `readFields` reads is a `Row` of fields with the bracket behind it. -/
private theorem exists_row_of_readFields {levels : Nat} {before : Table Wording Json}
    {cs rest : List Char}
    {v : Json} (h : readFields (steps + 1) levels before cs = some (v, rest)) :
    ∃ inside fields, cs = inside ++ '\x7d' :: rest ∧ Row (Field (Spells levels)) inside fields ∧
      v = .obj (putAll before fields) := by
  obtain ⟨text, field, behind, rfl, htext, hafter⟩ := exists_field_of_readFields ih h
  obtain ⟨gap, hgap, hbehind⟩ := exists_gap behind
  have hpadded : Padded (Field (Spells levels)) (text ++ gap) field :=
    .between isGap_nil htext hgap
  -- behind a field there is a bracket or a comma
  rw [afterField] at hafter
  split at hafter
  · rename_i heq
    cases hafter
    refine ⟨text ++ gap, [field], ?_, .one hpadded, rfl⟩
    rw [hbehind, heq, List.append_assoc]
  · rename_i tail heq
    obtain ⟨gap', hgap', htail⟩ := exists_gap tail
    obtain ⟨inside, fields, hinside, hrow, rfl⟩ := ih.fields hafter
    refine ⟨text ++ gap ++ ',' :: (gap' ++ inside), field :: fields, ?_,
      .more hpadded (hrow.append hgap'), rfl⟩
    rw [hbehind, heq, htail, hinside]
    simp
  · cases hafter

/-- What `readValue` reads is spelled. -/
theorem exists_spells_of_readValue {levels : Nat} {cs rest : List Char} {v : Json}
    (h : readValue (steps + 1) levels cs = some (v, rest)) :
    ∃ text, cs = text ++ rest ∧ Spells levels text v := by
  have hatom {text : List Char} (hv : Atom text v) (hcs : cs = text ++ rest) :
      ∃ text, cs = text ++ rest ∧ Spells levels text v := ⟨text, hcs, .atom hv⟩
  rw [readValue.eq_def] at h
  dsimp only at h
  split at h
  · -- a string
    rename_i cs _
    obtain ⟨⟨w, r⟩, hstring, hpure⟩ := Option.bind_eq_some_iff.1 h
    cases hpure
    obtain ⟨⟨ns, r'⟩, hnumbers, hpure⟩ := Option.bind_eq_some_iff.1 hstring
    cases hpure
    obtain ⟨inside, rfl, hinside⟩ := readNumbers_eq_some_iff.1 hnumbers
    exact hatom (.string hinside) (by simp)
  · cases h
  · -- a list
    rename_i cs levels
    obtain ⟨gap, hgap, hcs⟩ := exists_gap cs
    split at h
    · rename_i heq
      cases h
      refine ⟨_, ?_, .inr (.inl ⟨[], rfl, .empty hgap⟩)⟩
      rw [hcs, heq]
      simp
    · obtain ⟨inside, items, hinside, hrow, rfl⟩ := ih.items h
      refine ⟨_, ?_, .inr (.inl ⟨items, rfl, .row (hrow.append hgap)⟩)⟩
      rw [hcs, hinside]
      simp
  · cases h
  · -- an object
    rename_i cs levels
    obtain ⟨gap, hgap, hcs⟩ := exists_gap cs
    split at h
    · rename_i heq
      cases h
      refine ⟨_, ?_, .inr (.inr ⟨[], rfl, .empty hgap⟩)⟩
      rw [hcs, heq]
      simp
    · obtain ⟨inside, fields, hinside, hrow, rfl⟩ := ih.fields h
      refine ⟨_, ?_, .inr (.inr ⟨fields, rfl, .row (hrow.append hgap)⟩)⟩
      rw [hcs, hinside]
      simp
  · cases h
    exact hatom .null rfl
  · cases h
    exact hatom .yes rfl
  · cases h
    exact hatom .no rfl
  · cases h
    exact hatom .notNumber rfl
  · cases h
    exact hatom (.infinite false) rfl
  · cases h
    exact hatom (.infinite true) rfl
  · obtain ⟨figure, hcs, hfigure⟩ := exists_figure_of_readNumber h
    exact hatom (.number hfigure) hcs

end

/-- Whatever the reader takes, in how many steps ever, it is spelled. -/
private theorem readsSpelled (steps : Nat) : ReadsSpelled steps := by
  -- the three readers call one another with a step less
  induction steps with
  | zero =>
    constructor
    · intro _ _ _ _ h
      cases h
    · intro _ _ _ _ _ h
      cases h
    · intro _ _ _ _ _ h
      cases h
  | succ steps ih =>
    exact ⟨exists_spells_of_readValue ih, exists_row_of_readItems ih, exists_row_of_readFields ih⟩

/-! ## Whole texts -/

/-- `parse` takes exactly the texts of the grammar, for the values that they spell. -/
theorem parse_eq_some_iff {inner : Nat} {cs : List Char} {v : Json} :
    parse inner cs = some v ↔ Document inner cs v := by
  constructor
  · intro h
    obtain ⟨⟨value, rest⟩, hread, hrest⟩ := Option.bind_eq_some_iff.1 h
    obtain ⟨text, htext, hspells⟩ := (readsSpelled _).value hread
    obtain ⟨gap, hgap, hcs⟩ := exists_gap cs
    obtain ⟨gap', hgap', hrest'⟩ := exists_gap rest
    dsimp only at hrest
    split at hrest
    · rename_i hempty
      cases hrest
      rw [List.isEmpty_iff.1 hempty, List.append_nil] at hrest'
      rw [hcs, htext, hrest']
      exact .between hgap hspells hgap'
    · cases hrest
  · intro h
    obtain ⟨text, after, hspells, hafter, hlength, hskip⟩ :=
      Padded.exists_skipGap h (fun _ => Spells.starts) []
    simp only [List.append_nil] at hskip
    -- twice as many steps as characters are enough
    have hread : readValue (2 * cs.length + 2) (inner + 1) (text ++ after) = some (v, after) := by
      refine readValue_append (inner + 1) hspells ?_ (by omega)
      have hcloses := hafter.closes_append closes_nil
      rwa [List.append_nil] at hcloses
    simp only [parse, hskip, hread, bind, Option.bind, skipGap_of_isGap hafter, List.isEmpty_nil,
      if_true]

/-- An `Atom` is no object. -/
private theorem Atom.ne_obj {cs : List Char} {v : Json} (h : Atom cs v)
    (table : Table Wording Json) :
    v ≠ .obj table := by
  rintro rfl
  cases h with
  | number h => cases h

/-- The object of a text is the table of its fields. -/
theorem document_obj_iff {inner : Nat} {cs : List Char} {table : Table Wording Json} :
    Document inner cs (.obj table) ↔
      ∃ fields, table = putAll [] fields ∧ ObjectDocument inner cs fields := by
  constructor
  · intro h
    cases h with
    | between hbefore h hafter =>
      -- an object is no atom and no array
      rcases h with h | ⟨items, heq, -⟩ | ⟨fields, heq, h⟩
      · exact absurd rfl (h.ne_obj table)
      · cases heq
      · exact ⟨fields, Json.obj.inj heq, .between hbefore h hafter⟩
  · rintro ⟨fields, rfl, h⟩
    cases h with
    | between hbefore h hafter => exact .between hbefore (.inr (.inr ⟨fields, rfl, h⟩)) hafter

/-! ## The last value of a name -/

/-- The last field of a name has this value. -/
def LastValue (fields : List (Wording × Json)) (name : Wording) (v : Json) : Prop :=
  ∃ before after, fields = before ++ (name, v) :: after ∧ name ∉ Table.names after

private theorem putAll_append (t : Table Wording Json) (before after : List (Wording × Json)) :
    putAll t (before ++ after) = putAll (putAll t before) after :=
  List.foldl_append

/-- `putAll` leaves the value of a name alone that comes among no fields. -/
private theorem get?_putAll_of_not_mem {t : Table Wording Json} {fields : List (Wording × Json)}
    {name : Wording} (h : name ∉ Table.names fields) :
    Table.get? (putAll t fields) name = Table.get? t name := by
  induction fields generalizing t with
  | nil => rfl
  | cons field fields ih =>
    simp only [Table.names, List.map_cons, List.mem_cons, not_or] at h
    rw [putAll, List.foldl_cons]
    exact (ih h.2).trans (by rw [Table.get?_put, if_neg (Ne.symm h.1)])

/-- `putAll` gives a name its `LastValue`. -/
private theorem LastValue.get?_putAll {fields : List (Wording × Json)} {name : Wording} {v : Json}
    (h : LastValue fields name v) (t : Table Wording Json) :
    Table.get? (putAll t fields) name = some v := by
  obtain ⟨before, after, rfl, hafter⟩ := h
  rw [putAll_append, putAll, List.foldl_cons]
  exact (get?_putAll_of_not_mem hafter).trans (Table.get?_put_self _ _ _)

/-- A name that comes among some fields has a `LastValue`. -/
private theorem exists_lastValue {fields : List (Wording × Json)} {name : Wording}
    (h : name ∈ Table.names fields) : ∃ v, LastValue fields name v := by
  induction fields with
  | nil => cases h
  | cons field fields ih =>
    by_cases hmem : name ∈ Table.names fields
    · obtain ⟨v, before, after, rfl, hafter⟩ := ih hmem
      exact ⟨v, field :: before, after, rfl, hafter⟩
    · obtain rfl : name = field.1 := (List.mem_cons.1 h).resolve_right hmem
      exact ⟨field.2, [], fields, rfl, hmem⟩

/-- An object has the `LastValue` of each name, and no other values. -/
theorem get?_putAll_eq_some_iff {fields : List (Wording × Json)} {name : Wording} {v : Json} :
    Table.get? (putAll [] fields) name = some v ↔ LastValue fields name v := by
  refine ⟨fun h => ?_, fun h => h.get?_putAll []⟩
  by_cases hmem : name ∈ Table.names fields
  · obtain ⟨v', hlast⟩ := exists_lastValue hmem
    rw [hlast.get?_putAll] at h
    cases h
    exact hlast
  · rw [get?_putAll_of_not_mem hmem] at h
    cases h

end Gamebook.Json

import Gamebook.Proofs.Exec
import Gamebook.Proofs.Numeral

/-!
# Templates that are filled in as they are written

The plainest templates are words with empty fields between them. A `Form` is such a template before
it is written down: writing it doubles the braces of its words, and filling it in takes that back
and puts the values between the words, in their order. Nothing in a value is looked at, so braces in
it are just braces. If there are fewer values than fields the template is shown as it was written.

## Key results

- `piecesFrom_escape_append`: the pieces of words are their symbols, whatever follows
- `pieces_template`: the pieces of a form
- `fillField_empty`: an empty field takes the next value
- `fill_template`: what a form is filled in to
- `phrase_filled_in_literally`: the same for a phrase of a language
-/

namespace Gamebook

namespace Template

/-! ## Words in a template -/

/-- A symbol as a template has it: a brace stands twice. -/
def doubled (s : Symbol) : Wording := if s = opening ∨ s = closing then [s, s] else [s]

/-- Words as a template has them. -/
def escape (w : Wording) : Wording := w.flatMap doubled

/-- A symbol as `doubled` is a piece of its own, and the next one starts behind it. -/
private theorem piecesFrom_doubled_append (s : Symbol) (rest : Wording) :
    piecesFrom .between (doubled s ++ rest) =
      (piecesFrom .between rest).map (Piece.plain s :: ·) := by
  have hne : closing ≠ opening := by decide
  unfold doubled
  -- a brace is read with the second one that stands behind it
  by_cases hopen : s = opening
  · subst hopen
    cases h : piecesFrom .between rest <;> simp [piecesFrom, step, h]
  · by_cases hclose : s = closing
    · subst hclose
      cases h : piecesFrom .between rest <;> simp [piecesFrom, step, h, hne]
    · cases h : piecesFrom .between rest <;> simp [piecesFrom, step, h, hopen, hclose]

/-- The pieces of words as in `escape` are their symbols, whatever follows them. -/
theorem piecesFrom_escape_append (w rest : Wording) :
    piecesFrom .between (escape w ++ rest) =
      (piecesFrom .between rest).map (w.map Piece.plain ++ ·) := by
  induction w with
  | nil => simp [escape]
  | cons s w ih =>
    have hcons : escape (s :: w) ++ rest = doubled s ++ (escape w ++ rest) := by
      simp [escape]
    rw [hcons, piecesFrom_doubled_append, ih, Option.map_map]
    rfl

/-! ## Forms -/

/-- Words with fields between them: the words before the first field, and the words behind each of
    the fields. -/
structure Form where
  start : Wording
  parts : List Wording
  deriving DecidableEq, Repr

/-- A field without a name, and the words behind it. -/
def fieldAndWords (w : Wording) : Wording := opening :: closing :: escape w

/-- A form as it is written. -/
def Form.template (f : Form) : Wording := escape f.start ++ f.parts.flatMap fieldAndWords

/-- A form with values in its fields. -/
def Form.filled (f : Form) (values : List Wording) : Wording :=
  f.start ++ (List.zipWith (· ++ ·) values f.parts).flatten

/-- The pieces of fields with words behind them. -/
def partPieces (parts : List Wording) : List Piece :=
  parts.flatMap fun w => .field { name := [] } :: w.map .plain

/-- The pieces of fields with words behind them are `partPieces`. -/
private theorem piecesFrom_fields (parts : List Wording) :
    piecesFrom .between (parts.flatMap fieldAndWords) = some (partPieces parts) := by
  have hne : closing ≠ opening := by decide
  induction parts with
  | nil => rfl
  | cons w parts ih =>
    have hwords := piecesFrom_escape_append w (parts.flatMap fieldAndWords)
    rw [ih] at hwords
    -- the two braces are a field, and the words start between pieces
    have hfield : piecesFrom .between (fieldAndWords w ++ parts.flatMap fieldAndWords) =
        (piecesFrom .between (escape w ++ parts.flatMap fieldAndWords)).map
          (Piece.field { name := [] } :: ·) := by
      rw [hwords]
      simp [fieldAndWords, piecesFrom, step, stepName, hne, hwords]
    rw [List.flatMap_cons, hfield, hwords]
    simp [partPieces]

/-- The pieces of a `Form` are the symbols of its words, and its fields. -/
theorem pieces_template (f : Form) :
    pieces f.template = some (f.start.map .plain ++ partPieces f.parts) := by
  rw [pieces, Form.template, piecesFrom_escape_append, piecesFrom_fields]
  rfl

/-! ## Filling in -/

/-- The numbering after some fields without a name. -/
def Numbering.taken : Nat → Numbering
  | 0 => .fresh
  | next + 1 => .inOrder (next + 1)

variable {S : Surroundings} {expand : Wording → Numbering → Option (Wording × Numbering)}
  {args : List Arg}

private theorem place?_taken (next : Nat) :
    (Numbering.taken next).place? [] = some (next, .taken (next + 1)) := by
  cases next <;> rfl

/-- Words are shown as they are. -/
private theorem fillPieces_plain_append (w : Wording) (rest : List Piece) (numbering : Numbering) :
    fillPieces S expand args (w.map .plain ++ rest) numbering =
      (fillPieces S expand args rest numbering).map fun filled => (w ++ filled.1, filled.2) := by
  induction w with
  | nil => simp
  | cons s w ih =>
    rw [List.map_cons, List.cons_append, fillPieces, ih]
    cases fillPieces S expand args rest numbering <;> rfl

/-- An empty field shows the next value, if there is one. -/
theorem fillField_empty (next : Nat) :
    fillField S expand args { name := [] } (.taken next) =
      (args[next]?.bind (Arg.display? S)).map fun shown => (shown, .taken (next + 1)) := by
  have hname : splitName [] = some ([], []) := rfl
  simp only [fillField, hname, place?_taken, bind, Option.bind_some]
  cases args[next]? with
  | none => rfl
  | some arg =>
    simp only [Option.bind_some, Arg.follow?, Arg.marked?, Arg.format?]
    cases arg.display? S <;> rfl

/-- Fields take the values from a place on, one after the other, or run out of them. Induction on
    the fields, for any place. -/
private theorem fillPieces_partPieces {values : List Wording}
    (expand : Wording → Numbering → Option (Wording × Numbering))
    (hvalues : args.map (Arg.display? S) = values.map some) (parts : List Wording) (next : Nat) :
    fillPieces S expand args (partPieces parts) (.taken next) =
      if parts.length ≤ values.length - next then
        some ((List.zipWith (· ++ ·) (values.drop next) parts).flatten,
          .taken (next + parts.length))
      else none := by
  induction parts generalizing next with
  | nil => simp [partPieces, fillPieces]
  | cons w parts ih =>
    have hpieces : partPieces (w :: parts) =
        .field { name := [] } :: (w.map .plain ++ partPieces parts) := by
      simp [partPieces]
    have hvalue : args[next]?.bind (Arg.display? S) = values[next]? := by
      have hplace := congrArg (fun row => row[next]?) hvalues
      simp only [List.getElem?_map] at hplace
      cases harg : args[next]? <;> cases hval : values[next]? <;> simp_all
    rw [hpieces, fillPieces, fillField_empty, hvalue]
    by_cases hnext : next < values.length
    · -- the field takes its value, and the others take theirs from the next place on
      have hzip : (List.zipWith (· ++ ·) (values.drop next) (w :: parts)).flatten =
          values[next] ++
            (w ++ (List.zipWith (· ++ ·) (values.drop (next + 1)) parts).flatten) := by
        rw [List.drop_eq_getElem_cons hnext, List.zipWith_cons_cons, List.flatten_cons,
          List.append_assoc]
      have hlength : (w :: parts).length ≤ values.length - next ↔
          parts.length ≤ values.length - (next + 1) := by
        rw [List.length_cons]
        omega
      have hcount : next + (w :: parts).length = next + 1 + parts.length := by
        rw [List.length_cons]
        omega
      simp only [List.getElem?_eq_getElem hnext, Option.map_some, bind, Option.bind_some,
        fillPieces_plain_append, ih, hlength, hzip, hcount]
      split <;> rfl
    · -- there is no value for this field, and so the whole cannot be filled in
      have hnone : values[next]? = none := List.getElem?_eq_none (Nat.le_of_not_lt hnext)
      have hlength : ¬ (w :: parts).length ≤ values.length - next := by
        rw [List.length_cons]
        omega
      rw [hnone, if_neg hlength]
      rfl

/-- A `Form` is filled in to its words with the values between them, if there are enough values. -/
theorem fill_template (f : Form) {values : List Wording}
    (hvalues : args.map (Arg.display? S) = values.map some) :
    fill S f.template args =
      if f.parts.length ≤ values.length then some (f.filled values) else none := by
  have hparts := fillPieces_partPieces (fillTo S args 1) hvalues f.parts 0
  rw [Nat.sub_zero, List.drop_zero] at hparts
  rw [fill, fillTo, pieces_template]
  simp only [bind, Option.bind_some, fillPieces_plain_append]
  rw [show Numbering.fresh = .taken 0 from rfl, hparts]
  split <;> rfl

/-! ## Values -/

/-- A value that is a text, or a whole number that is not too long to be written. -/
inductive Insert where
  | text (w : Wording)
  | number (n : Int) (short : (Nat.toDigits 10 n.natAbs).length ≤ Whole.maxDigits)

namespace Insert

/-- The value for a field. -/
def arg : Insert → Arg
  | .text w => .value (.str w)
  | .number n _ => .int n

/-- What is shown of the value. -/
def shown : Insert → Wording
  | .text w => w
  | .number n _ => Wording.ofChars (Whole.write n)

private theorem display?_arg (S : Surroundings) (i : Insert) : i.arg.display? S = some i.shown := by
  cases i with
  | text w => rfl
  | number n short =>
    have hlimit : n.natAbs < Whole.limit := (Whole.length_toDigits_le_iff _).1 short
    simp only [arg, shown, Arg.int, Arg.display?, Arg.literal?, Whole.write?, if_pos hlimit,
      Option.map_some]

end Insert

end Template

/-! ## Phrases -/

/-- A phrase with values is filled in, or shown as it is if it cannot be. -/
private theorem Phrasebook.fillPhrase_str (S : Surroundings) (template : Wording)
    {args : List Template.Arg} (h : args ≠ []) :
    fillPhrase S (.str template) args = .str ((Template.fill S template args).getD template) := by
  obtain ⟨arg, args, rfl⟩ := List.exists_cons_of_ne_nil h
  rw [fillPhrase]
  cases Template.fill S template (arg :: args) <;> rfl

open Template in
/-- A phrase that is written as a form is shown as the form is meant: its words, with the values
    between them as they are. If there are fewer values than fields, the phrase is shown as it was
    written. Nothing else changes. -/
theorem Play.phrase_filled_in_literally {w : World} {code : Wording} {pack : Table Wording Json}
    (hlanguage : w.phrasebook.language = .str code)
    (hpack : Table.get? w.phrasebook.packs code = some pack) (key : String) (f : Form)
    (hkey : Table.get? pack key = some (.str f.template)) (inserts : List Insert)
    (hinserts : inserts ≠ []) :
    (Play.phrase key (inserts.map Insert.arg)).exec w =
      (.ok (.str (if f.parts.length ≤ inserts.length then f.filled (inserts.map Insert.shown)
        else f.template)), w) := by
  have hlook : Phrasebook.lookUp w.phrasebook.packs w.phrasebook.language = .ok (some pack) := by
    rw [hlanguage, Phrasebook.lookUp, hpack]
  -- every value has a text to be shown with
  have hvalues : (inserts.map Insert.arg).map (Arg.display? w.phrasebook.reach) =
      (inserts.map Insert.shown).map some := by
    simp [Insert.display?_arg]
  have hargs : inserts.map Insert.arg ≠ [] := by simpa using hinserts
  rw [exec_phrase, Phrasebook.phrase_of_lookUp hlook, Option.bind_some, hkey, Option.map_some,
    Option.getD_some, Phrasebook.fillPhrase_str _ _ hargs, fill_template f hvalues, List.length_map]
  split <;> rfl

/-- A form with braces on both sides of its fields. -/
def braced : Template.Form where
  start := "\x7b"
  parts := ["\x7d", "\x7b"]

/-- A pack with this form in it. -/
def bracedPack : Table Wording Json := [("boast", .str braced.template)]

/-- A world with this pack. -/
def bracedWorld : World where
  phrasebook := { packs := [("en", bracedPack)] }

/-- The braces of the form are undone, and those of the value are left alone. With too few values
    nothing is undone. -/
theorem Play.boast_in_braces :
    braced.template = .ofString "\x7b\x7b\x7b\x7d\x7d\x7d\x7b\x7d\x7b\x7b" ∧
    (Play.phrase "boast" [.text "\x7b0\x7d", .int (-5)]).exec bracedWorld =
      (.ok (.str (.ofString "\x7b\x7b0\x7d\x7d-5\x7b")), bracedWorld) ∧
    (Play.phrase "boast" [.int 7]).exec bracedWorld =
      (.ok (.str braced.template), bracedWorld) := by
  have hlanguage : bracedWorld.phrasebook.language = .str "en" := rfl
  have hpack : Table.get? bracedWorld.phrasebook.packs "en" = some bracedPack := by rfl
  have hkey : Table.get? bracedPack "boast" = some (.str braced.template) := by rfl
  have hfilled : braced.filled ["\x7b0\x7d", "-5"] = "\x7b\x7b0\x7d\x7d-5\x7b" := by decide
  refine ⟨by decide, ?_, ?_⟩
  · rw [← hfilled]
    exact phrase_filled_in_literally hlanguage hpack "boast" braced hkey
      [.text "\x7b0\x7d", .number (-5) (by decide)] (List.cons_ne_nil _ _)
  · exact phrase_filled_in_literally hlanguage hpack "boast" braced hkey [.number 7 (by decide)]
      (List.cons_ne_nil _ _)

end Gamebook

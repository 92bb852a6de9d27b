import Gamebook.Json.File
import Gamebook.Proofs.Json.Atoms
import Gamebook.Proofs.Json.Grammar
import Gamebook.Proofs.Text.Lines
import Gamebook.Proofs.Text.Utf8

/-!
# JSON that is read back

A value that was written is read back as it was, if it holds no number with a fraction and no half
of a character, and its numbers, its nesting and the names of its fields are within bounds: the
reader has a limit on digits and on nesting, and keeps one field of each name. Such a value is
written as the grammar spells it.

The text of a value has no `\r` in it, so nothing changes on its way through a file.

## Key results

- `exists_spells_renderAt`: a value is written as it is spelled
- `parse_render`: a value is read back
- `json?_of_read`: a value is read back from a file
-/

namespace Gamebook.Json

/-! ## Values that can be read back -/

/-- Fields with different names make a table that has them in their order. -/
private theorem putAll_of_nodup {before : Table Wording Json} {fields : List (Wording × Json)}
    (h : (Table.names (before ++ fields)).Nodup) : putAll before fields = before ++ fields := by
  induction fields generalizing before with
  | nil => simp [putAll]
  | cons field fields ih =>
    obtain ⟨name, value⟩ := field
    rw [List.append_cons] at h ⊢
    -- the first of the fields is new, and goes to the end of the table
    have hname : name ∉ Table.names before := by
      intro hmem
      have hbefore : (Table.names before ++ [name]).Nodup := by
        simp only [Table.names, List.map_append, List.map_cons, List.map_nil] at h ⊢
        exact (List.nodup_append.1 h).1
      exact (List.nodup_append.1 hbefore).2.2 name hmem name List.mem_cons_self rfl
    rw [putAll, List.foldl_cons, Table.put_of_not_mem hname]
    exact ih h

/-- A wording of whole characters. -/
def IsWhole (w : Wording) : Prop := ∃ cs, w = .ofChars cs

mutual

/-- A value that can be read back when it was written. -/
def Writable : Json → Prop
  | .null => True
  | .bool _ => True
  | .int n => n.natAbs < Whole.limit
  | .float _ => False
  | .str w => IsWhole w
  | .arr items => WritableItems items
  | .obj fields => WritableFields fields ∧ (Table.names fields).Nodup

/-- Items that can be read back. -/
def WritableItems : List Json → Prop
  | [] => True
  | item :: items => Writable item ∧ WritableItems items

/-- Fields of which the names and the values can be read back. -/
def WritableFields : List (Wording × Json) → Prop
  | [] => True
  | (name, value) :: fields => IsWhole name ∧ Writable value ∧ WritableFields fields

end

mutual

/-- How many lists and objects stand inside one another. -/
def nesting : Json → Nat
  | .arr items => nestingItems items + 1
  | .obj fields => nestingFields fields + 1
  | _ => 0

/-- The deepest nesting of some items. -/
def nestingItems : List Json → Nat
  | [] => 0
  | item :: items => max (nesting item) (nestingItems items)

/-- The deepest nesting of some fields. -/
def nestingFields : List (Wording × Json) → Nat
  | [] => 0
  | (_, value) :: fields => max (nesting value) (nestingFields fields)

end

/-! ## Nothing is left out

A value without halves of characters is written from its start to its end.
-/

/-- `renderString` writes every character of a text without halves. -/
private theorem renderString_ofChars (cs : List Char) :
    renderString (.ofChars cs) = '"' :: (cs.flatMap renderChar ++ ['"']) := by
  have hwhole : (Wording.ofChars cs).filterMap Symbol.char? = cs := by
    simp [Wording.ofChars, List.filterMap_map, Function.comp_def, Symbol.char?]
  rw [renderString, hwhole]

private theorem isBroken_ofChars (cs : List Char) : isBroken (.ofChars cs) = false := by
  simp [isBroken, Wording.ofChars, Symbol.char?]

mutual

private theorem frontAt_eq_none (depth : Nat) : ∀ v : Json, v.Writable → frontAt depth v = none
  | .null, _ => by rw [frontAt] <;> simp
  | .bool _, _ => by rw [frontAt] <;> simp
  | .int _, _ => by rw [frontAt] <;> simp
  | .float _, _ => by rw [frontAt] <;> simp
  | .str w, h => by
    obtain ⟨cs, rfl⟩ := h
    rw [frontAt, isBroken_ofChars]
    rfl
  | .arr items, h => by rw [frontAt, frontItems_eq_none depth _ items h]
  | .obj fields, h => by rw [frontAt, frontFields_eq_none depth _ fields h.1]

private theorem frontItems_eq_none (depth : Nat) (before : List Char) :
    ∀ items : List Json, WritableItems items → frontItems depth before items = none
  | [], _ => by rw [frontItems]
  | item :: items, h => by
    have hitem := frontAt_eq_none (depth + 1) item h.1
    have hitems := frontItems_eq_none depth (',' :: newLine (depth + 1)) items h.2
    cases item <;> simp [frontItems, hitem, hitems]

private theorem frontFields_eq_none (depth : Nat) (before : List Char) :
    ∀ fields : List (Wording × Json), WritableFields fields → frontFields depth before fields = none
  | [], _ => by rw [frontFields]
  | (name, value) :: fields, h => by
    obtain ⟨⟨cs, rfl⟩, hvalue, hfields⟩ := h
    rw [frontFields, isBroken_ofChars, frontAt_eq_none (depth + 1) value hvalue,
      frontFields_eq_none depth _ fields hfields]
    rfl

end

/-- A value that can be read back is `written` in full. -/
private theorem written_of_writable {v : Json} (hv : v.Writable) : v.written = v.render := by
  rw [written, frontAt_eq_none 0 v hv, Option.getD_none]

/-! ## Line ends -/

private theorem cr_not_mem_newLine (depth : Nat) : '\r' ∉ newLine depth := by
  simp [newLine, List.mem_replicate]

private theorem cr_not_mem_hexDigits (width n : Nat) : '\r' ∉ Text.hexDigits width n := by
  have hdigit : ∀ k < 16, '\r' ≠ Nat.digitChar k := by decide
  induction width generalizing n with
  | zero => simp [Text.hexDigits]
  | succ width ih =>
    simp only [Text.hexDigits, List.mem_append, List.mem_singleton, not_or]
    exact ⟨ih _, hdigit _ (Nat.mod_lt _ (by decide))⟩

private theorem cr_not_mem_renderString (cs : List Char) : '\r' ∉ renderString (.ofChars cs) := by
  have hchar (c : Char) : '\r' ∉ renderChar c := by
    unfold renderChar
    split
    case h_8 hreturn _ _ _ =>
      split
      · simpa using cr_not_mem_hexDigits 4 c.toNat
      · simpa using fun h => hreturn h.symm
    all_goals decide
  rw [renderString_ofChars]
  simpa using fun c _ => hchar c

private theorem cr_not_mem_write (n : Int) : '\r' ∉ Whole.write n := by
  intro h
  rcases Whole.mem_write h with h | h <;> cases h

mutual

/-- The text of a value has no `\r` in it. -/
private theorem cr_not_mem_renderAt (depth : Nat) {rest : List Char} (hrest : '\r' ∉ rest) :
    ∀ v : Json, v.Writable → '\r' ∉ renderAt depth v rest
  | .null, _ => by simpa [renderAt] using hrest
  | .bool true, _ => by simpa [renderAt] using hrest
  | .bool false, _ => by simpa [renderAt] using hrest
  | .int n, _ => by simpa [renderAt] using ⟨cr_not_mem_write n, hrest⟩
  | .float _, h => h.elim
  | .str w, h => by
    obtain ⟨cs, rfl⟩ := h
    simpa [renderAt] using ⟨cr_not_mem_renderString cs, hrest⟩
  | .arr [], _ => by simpa [renderAt] using hrest
  | .arr (item :: items), h => by
    have hitems := cr_not_mem_renderItems depth hrest items h.2
    have hitem := cr_not_mem_renderAt (depth + 1) hitems item h.1
    simpa [renderAt] using ⟨cr_not_mem_newLine _, hitem⟩
  | .obj [], _ => by simpa [renderAt] using hrest
  | .obj ((name, value) :: fields), h => by
    obtain ⟨⟨⟨cs, rfl⟩, hvalue, hfields⟩, -⟩ := h
    have htail := cr_not_mem_renderFields depth hrest fields hfields
    have hvalue := cr_not_mem_renderAt (depth + 1) htail value hvalue
    simpa [renderAt] using ⟨cr_not_mem_newLine _, cr_not_mem_renderString cs, hvalue⟩

private theorem cr_not_mem_renderItems (depth : Nat) {rest : List Char} (hrest : '\r' ∉ rest) :
    ∀ items : List Json, WritableItems items → '\r' ∉ renderItems depth items rest
  | [], _ => by simpa [renderItems] using ⟨cr_not_mem_newLine _, hrest⟩
  | item :: items, h => by
    have hitems := cr_not_mem_renderItems depth hrest items h.2
    have hitem := cr_not_mem_renderAt (depth + 1) hitems item h.1
    simpa [renderItems] using ⟨cr_not_mem_newLine _, hitem⟩

private theorem cr_not_mem_renderFields (depth : Nat) {rest : List Char} (hrest : '\r' ∉ rest) :
    ∀ fields : List (Wording × Json), WritableFields fields → '\r' ∉ renderFields depth fields rest
  | [], _ => by simpa [renderFields] using ⟨cr_not_mem_newLine _, hrest⟩
  | (name, value) :: fields, h => by
    obtain ⟨⟨cs, rfl⟩, hvalue, hfields⟩ := h
    have htail := cr_not_mem_renderFields depth hrest fields hfields
    have hvalue := cr_not_mem_renderAt (depth + 1) htail value hvalue
    simpa [renderFields] using ⟨cr_not_mem_newLine _, cr_not_mem_renderString cs, hvalue⟩

end

/-! ## Values as they are written -/

private theorem isGap_newLine (depth : Nat) : IsGap (newLine depth) := by
  intro c hc
  rcases List.mem_cons.1 hc with rfl | hc
  · decide
  · rw [(List.mem_replicate.1 hc).2]
    decide

/-- The name of a field, as it is written, and a value behind it are a `Field`. -/
private theorem field_renderString {P : List Char → Json → Prop} {text : List Char} {v : Json}
    (name : List Char) (h : P text v) :
    Field P (renderString (.ofChars name) ++ [':', ' '] ++ text) (.ofChars name, v) := by
  have hspace : IsGap [' '] := by
    intro c hc
    rw [List.mem_singleton.1 hc]
    decide
  have hfield := Field.named (inside_flatMap_renderChar name) isGap_nil hspace h
  rw [Wording.ofNumbers_toNat] at hfield
  simpa [renderString_ofChars] using hfield

/-- What is written behind the first thing of a row, up to the bracket: whatever the first thing is,
    the two make a `Row`. -/
def Continues {α : Type} (P : List Char → α → Prop) (text : List Char) (as : List α) : Prop :=
  ∀ {first : List Char} {a : α}, (∀ gap, IsGap gap → Padded P (first ++ gap) a) →
    Row P (first ++ text) (a :: as)

/-- A thing on a line of its own is `Padded`. -/
private theorem padded_newLine {α : Type} {P : List Char → α → Prop} {text : List Char} {a : α}
    (depth : Nat) (h : P text a) (gap : List Char) (hgap : IsGap gap) :
    Padded P (newLine depth ++ text ++ gap) a := by
  rw [List.append_assoc]
  exact .between (isGap_newLine depth) h hgap

/-- The line end behind the last thing of a row goes with it as a gap. -/
private theorem continues_nil {α : Type} {P : List Char → α → Prop} (depth : Nat) :
    Continues P (newLine depth) [] :=
  fun hfirst => .one (hfirst _ (isGap_newLine depth))

/-- A comma and a thing on a line of its own go on with a row. -/
theorem Continues.cons {α : Type} {P : List Char → α → Prop} {text others : List Char} {a : α}
    {as : List α} (depth : Nat) (h : P text a) (hothers : Continues P others as) :
    Continues P (',' :: (newLine depth ++ text ++ others)) (a :: as) := by
  intro first b hfirst
  have hpadded := hfirst [] isGap_nil
  rw [List.append_nil] at hpadded
  exact .more hpadded (hothers (padded_newLine depth h))

mutual

/-- A value is written as it is spelled, in front of any rest. -/
theorem exists_spells_renderAt (depth : Nat) : ∀ (v : Json) {levels : Nat}, v.Writable →
    v.nesting ≤ levels → ∃ text, Spells levels text v ∧ ∀ rest, renderAt depth v rest = text ++ rest
  | .null, _, _, _ => ⟨_, .atom .null, fun rest => by rw [renderAt]⟩
  | .bool true, _, _, _ => ⟨_, .atom .yes, fun rest => by rw [renderAt]⟩
  | .bool false, _, _, _ => ⟨_, .atom .no, fun rest => by rw [renderAt]⟩
  | .int n, _, h, _ => ⟨_, .atom (.number (figure_write h)), fun rest => by rw [renderAt]⟩
  | .float _, _, h, _ => h.elim
  | .str w, levels, h, _ => by
    obtain ⟨cs, rfl⟩ := h
    have hstring := Atom.string (inside_flatMap_renderChar cs)
    rw [Wording.ofNumbers_toNat] at hstring
    exact ⟨_, .atom hstring, fun rest => by rw [renderAt, renderString_ofChars]⟩
  | .arr _, 0, _, hlevels => by simp [nesting] at hlevels
  | .arr [], levels + 1, _, _ =>
    ⟨['[', ']'], .inr (.inl ⟨[], rfl, .empty isGap_nil⟩), fun rest => by rw [renderAt]⟩
  | .arr (item :: items), levels + 1, h, hlevels => by
    rw [nesting, nestingItems] at hlevels
    obtain ⟨text, htext, hitem⟩ :=
      exists_spells_renderAt (depth + 1) item h.1 (by omega : item.nesting ≤ levels)
    obtain ⟨others, hothers, hitems⟩ :=
      exists_continues_renderItems depth items h.2 (by omega : nestingItems items ≤ levels)
    -- the first item is on a line of its own, and the others go on behind it
    have hrow := hothers (padded_newLine (depth + 1) htext)
    refine ⟨_, .inr (.inl ⟨_, rfl, .row hrow⟩), fun rest => ?_⟩
    rw [renderAt, hitem, hitems]
    simp
  | .obj _, 0, _, hlevels => by simp [nesting] at hlevels
  | .obj [], levels + 1, _, _ =>
    ⟨['\x7b', '\x7d'], .inr (.inr ⟨[], rfl, .empty isGap_nil⟩), fun rest => by rw [renderAt]⟩
  | .obj ((name, value) :: fields), levels + 1, h, hlevels => by
    obtain ⟨⟨⟨cs, rfl⟩, hvalue, hfields⟩, hnames⟩ := h
    rw [nesting, nestingFields] at hlevels
    obtain ⟨text, htext, hrender⟩ :=
      exists_spells_renderAt (depth + 1) value hvalue (by omega : value.nesting ≤ levels)
    obtain ⟨others, hothers, hrenders⟩ :=
      exists_continues_renderFields depth fields hfields (by omega : nestingFields fields ≤ levels)
    have hrow := hothers (padded_newLine (depth + 1) (field_renderString cs htext))
    -- no name comes twice, so that the fields are the table
    have hsame : putAll [] ((.ofChars cs, value) :: fields) = (.ofChars cs, value) :: fields :=
      putAll_of_nodup hnames
    refine ⟨_, .inr (.inr ⟨_, by rw [hsame], .row hrow⟩), fun rest => ?_⟩
    rw [renderAt, hrender, hrenders]
    simp

/-- The items behind the first one go on with the row. -/
private theorem exists_continues_renderItems (depth : Nat) : ∀ (items : List Json) {levels : Nat},
    WritableItems items → nestingItems items ≤ levels →
    ∃ text, Continues (Spells levels) text items ∧
      ∀ rest, renderItems depth items rest = text ++ ']' :: rest
  | [], _, _, _ => ⟨_, continues_nil depth, fun rest => by simp [renderItems]⟩
  | item :: items, levels, h, hlevels => by
    rw [nestingItems] at hlevels
    -- an item stands one level deeper than the row it is in
    obtain ⟨text, htext, hitem⟩ :=
      exists_spells_renderAt (depth + 1) item h.1 (by omega : item.nesting ≤ levels)
    obtain ⟨others, hothers, hitems⟩ :=
      exists_continues_renderItems depth items h.2 (by omega : nestingItems items ≤ levels)
    refine ⟨_, hothers.cons (depth + 1) htext, fun rest => ?_⟩
    rw [renderItems, hitem, hitems]
    simp

/-- The fields behind the first one go on with the row. -/
private theorem exists_continues_renderFields (depth : Nat) : ∀ (fields : List (Wording × Json))
    {levels : Nat}, WritableFields fields → nestingFields fields ≤ levels →
    ∃ text, Continues (Field (Spells levels)) text fields ∧
      ∀ rest, renderFields depth fields rest = text ++ '\x7d' :: rest
  | [], _, _, _ => ⟨_, continues_nil depth, fun rest => by simp [renderFields]⟩
  | (name, value) :: fields, levels, h, hlevels => by
    obtain ⟨⟨cs, rfl⟩, hvalue, hfields⟩ := h
    rw [nestingFields] at hlevels
    obtain ⟨text, htext, hrender⟩ :=
      exists_spells_renderAt (depth + 1) value hvalue (by omega : value.nesting ≤ levels)
    obtain ⟨others, hothers, hrenders⟩ :=
      exists_continues_renderFields depth fields hfields (by omega : nestingFields fields ≤ levels)
    refine ⟨_, hothers.cons (depth + 1) (field_renderString cs htext), fun rest => ?_⟩
    rw [renderFields, hrender, hrenders]
    simp

end

/-! ## Whole texts -/

/-- `parse` reads the text that `render` gives of a value back as that value. -/
theorem parse_render {inner : Nat} {v : Json} (hv : v.Writable) (hnesting : v.nesting ≤ inner + 1) :
    parse inner v.render = some v := by
  obtain ⟨text, htext, hrender⟩ := exists_spells_renderAt 0 v hv hnesting
  -- the text is spelled, with no gaps around it
  have hdocument : Document inner ([] ++ (text ++ [])) v := .between isGap_nil htext isGap_nil
  rw [List.nil_append, ← hrender] at hdocument
  exact parse_eq_some_iff.2 hdocument

/-- A file that holds what is `written` of a value has that value in it. -/
theorem json?_of_read {inner : Nat} {d : Disk} {path : String} {v : Json} (hv : v.Writable)
    (hnesting : v.nesting ≤ inner + 1) (hread : d.read path = .ok (Text.Utf8.encode v.written)) :
    d.json? inner path = some v := by
  have hcr : '\r' ∉ v.render := cr_not_mem_renderAt 0 List.not_mem_nil v hv
  -- the text has no line end that reading would change
  simp only [Disk.json?, hread, written_of_writable hv, Text.Utf8.decode_encode, Except.toOption,
    bind, Option.bind, Text.unifyLineEnds_of_not_mem hcr]
  exact parse_render hv hnesting

end Gamebook.Json

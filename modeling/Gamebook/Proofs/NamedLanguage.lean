import Gamebook.Proofs.Settings

/-!
# The language that settings name

Settings name a language if their file is a text that holds an object with a field for it. The text
may be spelled in any way that the grammar of JSON allows, and if it has more than one field for the
language the last one counts. Whatever else is in the place of the settings, a folder, bytes that
are no text, a text that is no JSON, or another value than an object, names no language. Nor does a
list with the word among its items, or a string with the word in it: the word is found there, but
it is not the name of anything.

## Key results

- `language?_eq_some_iff`: which language settings ask for
- `load_takes_named_language`: what loading the settings does
-/

namespace Gamebook

/-- If a name is found by `holds?`, `field?` gives a value for it only in an object: what is found
    in a list or in a string has no value. -/
private theorem Json.field?_of_holds?_iff {config v : Json} {name : Wording} :
    (do if ← config.holds? name then config.field? name else none : Option Json) = some v ↔
      ∃ table, config = .obj table ∧ Table.get? table name = some v := by
  -- a value that is no object has no fields, whether the name is found in it or not
  have hother (found : Option Bool) :
      (do if ← found then none else none : Option Json) ≠ some v := by
    rcases found with _ | (_ | _) <;> exact nofun
  cases config with
  | obj table =>
    simp only [holds?, field?, Json.obj.injEq, exists_eq_left']
    cases Table.get? table name <;> exact Iff.rfl
  | _ =>
    constructor
    · intro h
      exact absurd h (hother _)
    · rintro ⟨table, heq, -⟩
      cases heq

namespace Settings

open Play

/-- The settings on the disk `d` name the language `v`: their file is a text that holds an object,
    and the last field for the language has this value. -/
def NamesLanguage (inner : Nat) (d : Disk) (v : Json) : Prop :=
  ∃ cs fields, d.find file = .ok (.file (Text.Utf8.encode cs)) ∧
    Json.ObjectDocument inner (Text.unifyLineEnds cs) fields ∧ Json.LastValue fields "language" v

/-- `language?` asks for the language that the settings name, and for no other one. -/
theorem language?_eq_some_iff {inner : Nat} {d : Disk} {v : Json} :
    language? inner d = some v ↔ NamesLanguage inner d v := by
  -- The steps of the reader, each with what it found.
  have hsteps : language? inner d = some v ↔
      ∃ bs, d.read file = .ok bs ∧ ∃ cs, Text.Utf8.decode bs = .ok cs ∧
        ∃ config, Json.parse inner (Text.unifyLineEnds cs) = some config ∧
          ∃ table, config = .obj table ∧ Table.get? table "language" = some v := by
    simp only [← Json.field?_of_holds?_iff, ← toOption_eq_some, ← Option.bind_eq_some_iff]
    rw [language?, Disk.json?]
    simp only [bind, Option.bind_assoc]
  rw [hsteps]
  constructor
  · -- a text that is read as an object is spelled as its fields, and the last one counts
    rintro ⟨bs, hread, cs, hdecode, config, hparse, table, rfl, hget⟩
    obtain ⟨fields, rfl, hobject⟩ := Json.document_obj_iff.1 (Json.parse_eq_some_iff.1 hparse)
    exact ⟨cs, fields, Disk.read_decode_iff.1 ⟨bs, hread, hdecode⟩, hobject,
      Json.get?_putAll_eq_some_iff.1 hget⟩
  · rintro ⟨cs, fields, hfind, hobject, hlast⟩
    obtain ⟨bs, hread, hdecode⟩ := Disk.read_decode_iff.2 hfind
    have hparse := Json.parse_eq_some_iff.2 (Json.document_obj_iff.2 ⟨fields, rfl, hobject⟩)
    exact ⟨bs, hread, cs, hdecode, _, hparse, _, rfl, Json.get?_putAll_eq_some_iff.2 hlast⟩

/-- `load` of the settings never fails. If `NamesLanguage` holds of a language it becomes the
    current one, and nothing else changes. If it holds of none, nothing changes at all. -/
theorem load_takes_named_language (w : World) :
    (∀ v, NamesLanguage w.nesting w.disk v →
      load.exec w = (.ok (), { w with phrasebook := { w.phrasebook with language := v } })) ∧
    ((∀ v, ¬ NamesLanguage w.nesting w.disk v) → load.exec w = (.ok (), w)) := by
  constructor
  · intro v hnames
    have hlanguage := language?_eq_some_iff.2 hnames
    simp only [load, exec_modify, hlanguage]
  · intro hnone
    have hlanguage : language? w.nesting w.disk = none :=
      Option.eq_none_iff_forall_ne_some.2 fun v h => hnone v (language?_eq_some_iff.1 h)
    simp only [load, exec_modify, hlanguage]

/-- Settings that name the language twice, the second time with an escape in the word and with a
    value that is no code. -/
def twiceNamed : List Char :=
  "\x7b\"language\":null,\r\"l\\u0061nguage\" :[]\x7d".toList

private theorem object_twiceNamed :
    Json.ObjectDocument 1 (Text.unifyLineEnds twiceNamed)
      [("language", .null), ("language", .arr [])] := by
  have htext : Text.unifyLineEnds twiceNamed =
      '\x7b' :: ((['"', 'l', 'a', 'n', 'g', 'u', 'a', 'g', 'e', '"', ':', 'n', 'u', 'l', 'l'] ++
        ',' :: ('\n' :: ['"', 'l', '\\', 'u', '0', '0', '6', '1', 'n', 'g', 'u', 'a', 'g', 'e', '"',
          ' ', ':', '[', ']'])) ++ ['\x7d']) := by
    decide +kernel
  -- what both spellings of the word stand for
  have hname : Wording.ofNumbers (['l', 'a', 'n', 'g', 'u', 'a', 'g', 'e'].map Char.toNat) =
      "language" := by
    decide +kernel
  -- the word as it is, and with its second letter spelled by four digits
  have hword := Json.inside_flatMap_renderChar ['l', 'a', 'n', 'g', 'u', 'a', 'g', 'e']
  have hescaped : Json.Inside
      ['l', '\\', 'u', '0', '0', '6', '1', 'n', 'g', 'u', 'a', 'g', 'e']
      (['l', 'a', 'n', 'g', 'u', 'a', 'g', 'e'].map Char.toNat) :=
    .cons (.plain (by decide) (by decide) (by decide)) (.cons (.digits rfl)
      (Json.inside_flatMap_renderChar ['n', 'g', 'u', 'a', 'g', 'e']))
  have hspace : Json.IsGap [' '] := by simp [Json.IsGap]
  have hline : Json.IsGap ['\n'] := by simp [Json.IsGap]
  -- the two fields, and the row that they make
  have hfirst : Json.Field (Json.Spells 1) _ (_, .null) :=
    .named hword Json.isGap_nil Json.isGap_nil (.atom .null)
  have hsecond : Json.Field (Json.Spells 1) _ (_, .arr []) :=
    .named hescaped hspace Json.isGap_nil (.inr (.inl ⟨[], rfl, .empty Json.isGap_nil⟩))
  have hrow := Json.Row.more (.between Json.isGap_nil hfirst Json.isGap_nil)
    (.one (.between hline hsecond Json.isGap_nil))
  rw [htext, ← hname]
  exact Json.Padded.between Json.isGap_nil (Json.Bracketed.row hrow) Json.isGap_nil

/-- The last of the two languages in `twiceNamed` is loaded. -/
theorem second_language_is_loaded :
    NamesLanguage 1 (withFile {} (Text.Utf8.encode twiceNamed)) (.arr []) ∧
    (load.exec { disk := withFile {} (Text.Utf8.encode twiceNamed)
                 nesting := 1 }).2.phrasebook.language = .arr [] := by
  have hnames : NamesLanguage 1 (withFile {} (Text.Utf8.encode twiceNamed)) (.arr []) :=
    ⟨twiceNamed, _, find_withFile {} _, object_twiceNamed,
      [("language", .null)], [], rfl, List.not_mem_nil⟩
  refine ⟨hnames, ?_⟩
  rw [(load_takes_named_language
    { disk := withFile {} (Text.Utf8.encode twiceNamed), nesting := 1 }).1 _ hnames]

end Settings

end Gamebook

import Gamebook.Proofs.Disk
import Gamebook.Proofs.Exec
import Gamebook.Proofs.Json.RoundTrip
import Gamebook.Settings

/-!
# Settings that are read back

The language is written into the settings as JSON and read from there. Unless a folder stands in the
place of their file, settings are always written, and a language that can be read back is the one
that was in force when they were.

## Key results

- `exec_save`: what the disk holds after settings were written
- `language?_saved`: the language that these settings ask for
- `saved_language_is_loaded`: a language survives its way through the settings
-/

namespace Gamebook.Settings

open Play

/-! ## The file of the settings -/

/-- `find` of the settings' `file` is a look-up in the working folder. -/
theorem find_file (d : Disk) :
    d.find file =
      match Table.get? d.entries file with
      | none => .error .missing
      | some node => .ok node :=
  d.find_name (by decide) (by decide) (by decide)

/-- No folder stands in the place of the settings' `file`. -/
def HasRoom (d : Disk) : Prop := ∀ entries, d.find file ≠ .ok (.folder entries)

theorem hasRoom_empty : HasRoom {} := by
  intro entries h
  rw [find_file] at h
  cases h

/-- The disk `d` with a file in the place of the settings. -/
def withFile (d : Disk) (content : List UInt8) : Disk :=
  { d with entries := Table.put d.entries file (.file content) }

theorem find_withFile (d : Disk) (content : List UInt8) :
    (withFile d content).find file = .ok (.file content) := by
  rw [find_file, withFile, Table.get?_put_self]

theorem hasRoom_withFile (d : Disk) (content : List UInt8) : HasRoom (withFile d content) := by
  intro entries h
  rw [find_withFile] at h
  cases h

/-- `write` puts the settings into their `file` if the disk `HasRoom` for them. -/
private theorem write_file {d : Disk} (h : HasRoom d) (content : List UInt8) :
    d.write file content = .ok (withFile d content) := by
  have hparts : Disk.parts file = [file] := by decide
  rw [d.write_name content hparts]
  rcases hnode : Table.get? d.entries file with _ | (_ | entries)
  · rfl
  · rfl
  · -- a folder in their place is what `HasRoom` rules out
    have hfind : d.find file = .ok (.folder entries) := by rw [find_file, hnode]
    exact absurd hfind (h entries)

/-! ## Writing and reading -/

/-- The bytes that `save` writes in the world `w`. -/
def bytes (w : World) : List UInt8 :=
  Text.Utf8.encode (toJson w.phrasebook.language w.clock).written

/-- `save` changes the settings' `file` and nothing else, if the disk `HasRoom`. -/
theorem exec_save {w : World} (h : HasRoom w.disk) :
    save.exec w = (.ok (), { w with disk := withFile w.disk (bytes w) }) := by
  simp only [save, exec_modify]
  rw [write_file h]
  rfl

/-- The settings' `toJson` is `Writable` if their language is. It is one level deeper. -/
private theorem writable_toJson {language : Json} (h : language.Writable) (time : String) :
    (toJson language time).Writable ∧ (toJson language time).nesting = language.nesting + 1 := by
  have hnames : (["language", "last_used"] : List Wording).Nodup := by decide
  refine ⟨⟨⟨⟨_, rfl⟩, h, ⟨_, rfl⟩, ⟨_, rfl⟩, trivial⟩, hnames⟩, ?_⟩
  simp [toJson, Json.nesting, Json.nestingFields]

/-- `language?` depends only on what is in the place of the settings' `file`. -/
theorem language?_congr {inner : Nat} {d d' : Disk} (h : d.find file = d'.find file) :
    language? inner d = language? inner d' := by
  simp only [language?, Disk.json?, Disk.read, h]

/-- `language?` gives back a language that is `Writable` from the `bytes` that were saved with it,
    if the reader goes as deep as the language. -/
theorem language?_saved {w : World} {inner : Nat} (hvalue : w.phrasebook.language.Writable)
    (hnesting : w.phrasebook.language.nesting ≤ inner) :
    language? inner (withFile w.disk (bytes w)) = some w.phrasebook.language := by
  obtain ⟨hwritable, hdeeper⟩ := writable_toJson hvalue w.clock
  have hread : (withFile w.disk (bytes w)).read file = .ok (bytes w) := by
    rw [Disk.read, find_withFile]
  -- the settings are one level deeper than the language, and so is what the reader takes
  have hjson := Json.json?_of_read hwritable (by omega : _ ≤ inner + 1) hread
  simp only [language?, hjson, bind, Option.bind]
  rfl

/-- `language?` gives back every code, however deep the reader goes. -/
theorem language?_saved_code {w : World} {code : String} (inner : Nat)
    (h : w.phrasebook.language = .str code) :
    language? inner (withFile w.disk (bytes w)) = some (.str code) := by
  have hvalue : w.phrasebook.language.Writable := h ▸ ⟨_, rfl⟩
  have hnesting : w.phrasebook.language.nesting ≤ inner := by
    rw [h]
    exact Nat.zero_le _
  rw [language?_saved hvalue hnesting, h]

/-- A language survives its way through the settings: after `save`, `load` in any world with the
    disk as it then is gets this very language, and changes nothing else. -/
theorem saved_language_is_loaded (w v : World) (hvalue : w.phrasebook.language.Writable)
    (hnesting : w.phrasebook.language.nesting ≤ v.nesting) (hroom : HasRoom w.disk)
    (hdisk : v.disk = (save.exec w).2.disk) :
    (save.exec w).1 = .ok () ∧
    load.exec v = (.ok (),
      { v with phrasebook := { v.phrasebook with language := w.phrasebook.language } }) := by
  have hsave := exec_save hroom
  -- the disk of `v` is the one with the file that was saved
  rw [hsave] at hdisk
  have hlanguage : language? v.nesting v.disk = some w.phrasebook.language := by
    rw [hdisk]
    exact language?_saved hvalue hnesting
  refine ⟨by rw [hsave], ?_⟩
  simp only [load, exec_modify, hlanguage]

/-- A value in the place of a language that has everything in it that could go wrong: nested lists
    and objects, empty ones, marks that are escaped and line ends that are not. -/
def oddLanguage : Json :=
  .obj
    [("a \"quoted\" \\ name",
      .arr [.null, .bool true, .int (-120), .str "\x00\x1f\r\n\u0085\u2028\ufeff", .arr [],
        .obj []]),
     ("", .obj [("b", .str ""), ("a", .int 0)])]

/-- The odd value is written, and a world with another language gets it from the settings. -/
theorem odd_language_is_loaded :
    oddLanguage.Writable ∧ oddLanguage.nesting ≤ 3 ∧ HasRoom {} ∧
    (load.exec
        { disk := (save.exec { phrasebook := { language := oddLanguage } }).2.disk
          nesting := 3 }).2.phrasebook =
      { language := oddLanguage } := by
  have hvalue : oddLanguage.Writable := by
    -- numbers are bounded by the count of their digits
    have hnumber (n : Nat) (h : (Nat.toDigits 10 n).length ≤ Whole.maxDigits) : n < Whole.limit :=
      (Whole.length_toDigits_le_iff n).1 h
    have hfirst : Json.WritableItems
        [.null, .bool true, .int (-120), .str "\x00\x1f\r\n\u0085\u2028\ufeff", .arr [], .obj []] :=
      ⟨trivial, trivial, hnumber 120 (by decide), ⟨_, rfl⟩, trivial, ⟨trivial, .nil⟩, trivial⟩
    have hsecond : (Json.obj [("b", .str ""), ("a", .int 0)]).Writable :=
      ⟨⟨⟨_, rfl⟩, ⟨_, rfl⟩, ⟨_, rfl⟩, hnumber 0 (by decide), trivial⟩, by decide +kernel⟩
    exact ⟨⟨⟨_, rfl⟩, hfirst, ⟨_, rfl⟩, hsecond, trivial⟩, by decide +kernel⟩
  have hnesting : oddLanguage.nesting ≤ 3 := by decide
  refine ⟨hvalue, hnesting, hasRoom_empty, ?_⟩
  have hload := (saved_language_is_loaded { phrasebook := { language := oddLanguage } }
    { disk := (save.exec { phrasebook := { language := oddLanguage } }).2.disk, nesting := 3 }
    hvalue hnesting hasRoom_empty rfl).2
  rw [hload]

end Gamebook.Settings

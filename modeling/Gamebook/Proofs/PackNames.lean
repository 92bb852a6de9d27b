import Gamebook.Proofs.Reload
import Gamebook.Prompt

/-!
# The names of packs

A pack is known by its code, and the code is made from the name of its file: the ending is taken
out of the name, wherever it stands. For most names that leaves what stands before the ending. But a
name with the ending somewhere in front has another code, and two files may come to have the same
one. Of those that have it the last one counts, in the order in which the disk lists them, whatever
order that is.

## Key results

- `codeOf_append_ending_iff`: the files whose code is their name without the ending
- `get?_packs_eq_some_iff`: the pack that is loaded for a code
- `exec_load_of_read`: what is loaded if there is a pack in a file
- `pack_under_own_name_iff`: which packs can be chosen by the names of their files
-/

namespace Gamebook.Phrasebook

open Play

/-! ## Codes of files -/

private theorem toList_append_ending (name : String) :
    (name ++ ending).toList = name.toList ++ ending.toList := String.toList_append

private theorem isPackFile_append_ending (name : String) : isPackFile (name ++ ending) = true := by
  rw [isPackFile, toList_append_ending, List.isSuffixOf_iff_suffix]
  exact List.suffix_append _ _

/-- `codeOf` takes the ending of a file's name away, and leaves the rest of the name as it would be
    without it. -/
private theorem codeOf_append_ending (name : String) : codeOf (name ++ ending) = codeOf name := by
  have hending : ending.toList = '.' :: "json".toList := rfl
  rw [codeOf, codeOf, toList_append_ending, hending, Text.replaceAll_append (by decide),
    List.append_nil]

/-- `codeOf` gives the name without the ending exactly if the ending does not stand anywhere else in
    the name. -/
theorem codeOf_append_ending_iff (name : String) :
    codeOf (name ++ ending) = name ↔ ¬ ending.toList <:+: name.toList := by
  rw [codeOf_append_ending, codeOf, ← String.toList_inj, String.toList_ofList]
  exact Text.replaceAll_nil_eq_self_iff (by decide)

/-- `LastPack levels d files code pack`: the pack in the last of some files that hold one for a
    code. -/
def LastPack (levels : Nat) (d : Disk) (files : List String) (code : Wording)
    (pack : Table Wording Json) : Prop :=
  ∃ before file after, files = before ++ file :: after ∧
    packFor? levels d code file = some pack ∧ ∀ other ∈ after, packFor? levels d code other = none

/-- The `LastPack` is the first one that is found from the end. -/
private theorem lastPack_iff {levels : Nat} {d : Disk} {files : List String} {code : Wording}
    {pack : Table Wording Json} :
    LastPack levels d files code pack ↔
      files.reverse.findSome? (packFor? levels d code) = some pack := by
  -- the last file of a list is the first of the list turned round
  rw [List.findSome?_eq_some_iff]
  constructor
  · rintro ⟨before, file, after, rfl, hfile, hafter⟩
    exact ⟨after.reverse, file, before.reverse, by simp, hfile,
      fun other hother => hafter other (List.mem_reverse.1 hother)⟩
  · rintro ⟨after, file, before, hfiles, hfile, hafter⟩
    refine ⟨before.reverse, file, after.reverse, ?_, hfile,
      fun other hother => hafter other (List.mem_reverse.1 hother)⟩
    rw [← List.reverse_reverse files, hfiles]
    simp

/-! ## Loading a pack -/

variable {w : World} {name : String} {pack : Table Wording Json}

/-- A code stands for the `LastPack` of it among the files that are loaded. -/
theorem get?_packs_eq_some_iff (files : List String) (code : Wording) :
    Table.get? (loaded w files).phrasebook.packs code = some pack ↔
      LastPack w.nesting w.disk files code pack := by
  have hnone : Table.get? ({ w.phrasebook with packs := [] } : Phrasebook).packs code = none := rfl
  rw [loaded, get?_addFiles, hnone, Option.or_none, lastPack_iff]

/-- If there is a pack in a file of the folder, `load` reads the folder as it is. -/
theorem exec_load_of_read (hslash : '/' ∉ name.toList)
    (hpack : readPack? w.nesting w.disk (name ++ ending) = some pack) :
    ∃ entries, w.disk.find folder = .ok (.folder entries) ∧
      load.exec w = (.ok (), loaded w (w.disk.listing entries)) := by
  have hfile := isPackFile_append_ending name
  have hslash : '/' ∉ (name ++ ending).toList := by
    rw [toList_append_ending, List.mem_append, not_or]
    exact ⟨hslash, by decide⟩
  obtain ⟨content, _, hread, -⟩ := readPack?_eq_some.1 hpack
  have hparts : Disk.parts (folder ++ "/" ++ (name ++ ending)) = [folder, name ++ ending] :=
    Disk.parts_inner (by decide) hslash
  rw [Disk.read] at hread
  by_cases hpath : Disk.isPath (folder ++ "/" ++ (name ++ ending)) = true
  · rw [w.disk.find_inner hpath hparts (by decide) (isName_of_isPackFile hfile)] at hread
    -- a file could be read, so there is a folder, and the file is in it
    rcases hfolder : Table.get? w.disk.entries folder with _ | (_ | entries) <;>
      rw [hfolder] at hread
    · cases hread
    · cases hread
    · have hfind : w.disk.find folder = .ok (.folder entries) := by rw [find_folder, hfolder]
      have hmem : name ++ ending ∈ w.disk.listing entries := by
        rw [Disk.mem_listing, Table.mem_names_iff]
        cases hget : Table.get? entries (name ++ ending) with
        | none => simp [hget] at hread
        | some node => rfl
      exact ⟨entries, hfind, exec_load_of_packs (exec_readFolder_of_folder hfind)
        (packs_loaded_ne_nil hmem (holdsPack_iff.2 ⟨hfile, pack, hpack⟩))⟩
  · rw [Disk.find, if_neg hpath] at hread
    cases hread

/-- `changeLanguage` chooses a language that has a name, whether it can be kept in the settings or
    not. -/
private theorem fst_exec_changeLanguage {code : String} {language : Json}
    (h : Table.get? w.phrasebook.languages code = some language) :
    ((Prompt.changeLanguage code).exec w).1 = .ok true := by
  let book : Phrasebook := { w.phrasebook with language := .str code }
  obtain ⟨text, htext⟩ := book.phrase_of_isCode "lang_changed" [.value language] rfl
  simp only [Prompt.changeLanguage, exec_bind, exec_get, h, exec_modify, exec_tell]
  rw [htext]
  rfl

/-- The file of a pack holds it for its own name exactly if the ending does not stand anywhere else
    in the name of the file. -/
private theorem packFor?_append_ending_iff
    (hpack : readPack? w.nesting w.disk (name ++ ending) = some pack) :
    packFor? w.nesting w.disk name (name ++ ending) = some pack ↔
      ¬ ending.toList <:+: name.toList := by
  rw [← codeOf_append_ending_iff, packFor?, hpack]
  simp [isPackFile_append_ending, Wording.ofString_injective.eq_iff]

/-! ## Packs under the names of their files -/

/-- If a file of the folder holds a pack, loading the packs does not fail. The pack is loaded under
    the name of its file, and can be chosen by it, exactly if of all files that hold a pack for this
    name the last one holds the same pack. The file itself is one of them exactly if the ending does
    not stand anywhere else in its name. -/
theorem pack_under_own_name_iff {content : List UInt8} {cs : List Char}
    (hslash : '/' ∉ name.toList)
    (hread : w.disk.read (folder ++ "/" ++ (name ++ ending)) = .ok content)
    (hdecode : Text.Utf8.decode content = .ok cs)
    (hparse : Json.parse w.nesting (Text.unifyLineEnds cs) = some (.obj pack)) :
    ∃ entries v, w.disk.find folder = .ok (.folder entries) ∧ load.exec w = (.ok (), v) ∧
      ((Table.get? v.phrasebook.packs name = some pack ∧
          ((Prompt.changeLanguage name).exec v).1 = .ok true) ↔
        LastPack w.nesting w.disk (w.disk.listing entries) name pack) ∧
      (packFor? w.nesting w.disk name (name ++ ending) = some pack ↔
        ¬ ending.toList <:+: name.toList) := by
  have hpack : readPack? w.nesting w.disk (name ++ ending) = some pack :=
    readPack?_eq_some.2 ⟨content, cs, hread, hdecode, hparse⟩
  obtain ⟨entries, hfind, hload⟩ := exec_load_of_read hslash hpack
  refine ⟨entries, _, hfind, hload, ?_, packFor?_append_ending_iff hpack⟩
  rw [← get?_packs_eq_some_iff]
  -- a pack under its name is enough for the language to be chosen
  refine and_iff_left_of_imp fun hget => ?_
  have hname : Table.get? (loaded w (w.disk.listing entries)).phrasebook.languages name =
      some (packName name pack) := by
    rw [get?_languages, hget, Option.map_some]
  exact fst_exec_changeLanguage hname

/-- A world with one file in the folder of the packs, an empty pack. -/
def onePack (file : String) : World where
  disk := { entries := [(folder, .folder [(file, .file (Text.Utf8.encode "\x7b\x7d".toList))])] }

private theorem find_onePack (file : String) :
    (onePack file).disk.find folder =
      .ok (.folder [(file, .file (Text.Utf8.encode "\x7b\x7d".toList))]) := by
  rw [find_folder]
  rfl

/-- A file with a plain name is loaded under its name. -/
theorem pack_chosen_by_own_name :
    ∃ v, load.exec (onePack ("a" ++ ending)) = (.ok (), v) ∧
      Table.get? v.phrasebook.packs "a" = some [] ∧
      ((Prompt.changeLanguage "a").exec v).1 = .ok true := by
  have hread : (onePack ("a" ++ ending)).disk.read (folder ++ "/" ++ ("a" ++ ending)) =
      .ok (Text.Utf8.encode "\x7b\x7d".toList) := by
    rw [Disk.read, Disk.find_inner _ (by decide) (Disk.parts_inner (by decide) (by decide))
      (by decide) (by decide)]
    rfl
  have hparse : Json.parse (onePack ("a" ++ ending)).nesting
      (Text.unifyLineEnds "\x7b\x7d".toList) = some (.obj []) := by rfl
  obtain ⟨entries, v, hfind, hload, hown, hending⟩ := pack_under_own_name_iff
    (w := onePack ("a" ++ ending)) (by decide) hread (Text.Utf8.decode_encode _) hparse
  rw [find_onePack] at hfind
  cases hfind
  rw [Disk.listing_singleton] at hown
  -- there is no other file, and the ending stands only at the end
  have hfor := hending.2 (by decide)
  exact ⟨v, hload, hown.2 ⟨[], _, [], rfl, hfor, List.forall_mem_nil _⟩⟩

/-- The ending stands twice in the name of the file, and so there is no pack under its name. -/
theorem doubled_ending_hides_pack :
    (readPack? (onePack "a.json.json").nesting (onePack "a.json.json").disk
      "a.json.json").isSome = true ∧
    ∃ v, load.exec (onePack "a.json.json") = (.ok (), v) ∧
      Table.get? v.phrasebook.packs "a.json" = none ∧
      ((Prompt.changeLanguage "a.json").exec v).1 = .ok false := by
  have hread := exec_readFolder_of_folder (find_onePack "a.json.json")
  rw [Disk.listing_singleton] at hread
  have hpack :
      (readPack? (onePack "a.json.json").nesting (onePack "a.json.json").disk
        "a.json.json").isSome = true ∧
      (Table.get? (loaded (onePack "a.json.json") ["a.json.json"]).phrasebook.packs
        "a.json").isNone = true ∧
      ((Prompt.changeLanguage "a.json").exec
        (loaded (onePack "a.json.json") ["a.json.json"])).1.toOption = some false ∧
      (loaded (onePack "a.json.json") ["a.json.json"]).phrasebook.packs.isEmpty = false := by
    decide +kernel
  obtain ⟨hsome, hnone, hchange, hpacks⟩ := hpack
  refine ⟨hsome, _, exec_load_of_packs hread ?_, Option.isNone_iff_eq_none.1 hnone, ?_⟩
  · intro hempty
    rw [hempty] at hpacks
    cases hpacks
  · rw [exec_of_toOption hchange]

end Gamebook.Phrasebook

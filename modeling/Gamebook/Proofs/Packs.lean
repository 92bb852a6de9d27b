import Gamebook.Phrasebook.Packs
import Gamebook.Proofs.Disk
import Gamebook.Proofs.Exec
import Gamebook.Proofs.Json.RoundTrip
import Mathlib.Data.List.Nodup

/-!
# How the packs are loaded

Loading the packs leaves at least one of them, or fails, and it fails for two reasons only: there is
a file where the folder of the packs should be, or there is no pack in the folder and a folder where
the English one should be written. It shows nothing and keeps the language.

## Key results

- `packs_addFiles_eq_nil`: when no pack is found among some files
- `holdsPack_english`: the English pack is a pack once it is written
- `loads_exec_load`: how loading ends, in each case
- `Loads.fault_iff`: when loading fails
-/

namespace Gamebook

theorem Wording.ofString_injective : Function.Injective Wording.ofString := by
  intro s t h
  have hchars := congrArg Wording.chars? h
  simp only [Wording.ofString, Wording.chars?_ofChars, Option.some.injEq] at hchars
  exact String.toList_inj.1 hchars

namespace Phrasebook

open Play

/-! ## The English pack -/

/-- The name of the file of the English pack. -/
def englishFile : String := "en.json"

/-- The bytes that `writeEnglish` writes. -/
def englishBytes : List UInt8 := Text.Utf8.encode (Json.obj english).written

/-- The keys of `english` are different. -/
private theorem nodup_english : (Table.names english).Nodup := by
  -- the keys are compared as strings, which is less work than as wordings
  have hkeys : (englishPhrases.map (·.1)).Nodup := by decide +kernel
  have hnames : Table.names english = (englishPhrases.map (·.1)).map Wording.ofString := by
    simp [Table.names, english, Function.comp_def]
  rw [hnames]
  exact List.Nodup.map Wording.ofString_injective hkeys

/-- The `english` pack is `Writable`, and has no lists or objects inside. -/
private theorem writable_english :
    (Json.obj english).Writable ∧ (Json.obj english).nesting = 1 := by
  -- any table of texts is writable and flat, so the texts need not be looked at
  have hfields (phrases : List (String × String)) :
      Json.WritableFields (phrases.map fun phrase => (↑phrase.1, .str phrase.2)) ∧
        Json.nestingFields (phrases.map fun phrase => (↑phrase.1, .str phrase.2)) = 0 := by
    induction phrases with
    | nil => exact ⟨trivial, rfl⟩
    | cons phrase phrases ih =>
      exact ⟨⟨⟨_, rfl⟩, ⟨_, rfl⟩, ih.1⟩, by simp [Json.nestingFields, Json.nesting, ih.2]⟩
  obtain ⟨hwritable, hnesting⟩ := hfields englishPhrases
  exact ⟨⟨hwritable, nodup_english⟩, congrArg (· + 1) hnesting⟩

/-! ## Looking for packs -/

/-- A file in the folder of the packs that holds one: its name ends like that of a pack, and it is
    text that is an object of JSON. `levels` is how deep the reader goes. -/
def HoldsPack (levels : Nat) (d : Disk) (file : String) : Prop :=
  isPackFile file = true ∧ ∃ content cs pack, d.read (folder ++ "/" ++ file) = .ok content ∧
    Text.Utf8.decode content = .ok cs ∧
    Json.parse levels (Text.unifyLineEnds cs) = some (.obj pack)

section

variable {levels : Nat} {d : Disk} {file : String}

/-- The steps of `Disk.json?`, each with what it found. -/
private theorem json?_eq_some {path : String} {v : Json} :
    d.json? levels path = some v ↔
      ∃ content cs, d.read path = .ok content ∧ Text.Utf8.decode content = .ok cs ∧
        Json.parse levels (Text.unifyLineEnds cs) = some v := by
  constructor
  · intro h
    obtain ⟨content, hread, h⟩ := Option.bind_eq_some_iff.1 h
    obtain ⟨cs, hdecode, h⟩ := Option.bind_eq_some_iff.1 h
    exact ⟨content, cs, toOption_eq_some.1 hread, toOption_eq_some.1 hdecode, h⟩
  · rintro ⟨content, cs, hread, hdecode, hparse⟩
    simp only [Disk.json?, hread, hdecode, hparse, Except.toOption, bind, Option.bind]

private theorem readPack?_eq_some_iff_json? {pack : Table Wording Json} :
    readPack? levels d file = some pack ↔
      d.json? levels (folder ++ "/" ++ file) = some (.obj pack) := by
  unfold readPack?
  split
  · rename_i found hjson
    simp [hjson]
  · rename_i hother
    exact ⟨nofun, fun h => absurd h (hother pack)⟩

/-- `readPack?` finds a pack in a file that is the text of an object. -/
theorem readPack?_eq_some {pack : Table Wording Json} :
    readPack? levels d file = some pack ↔
      ∃ content cs, d.read (folder ++ "/" ++ file) = .ok content ∧
        Text.Utf8.decode content = .ok cs ∧
        Json.parse levels (Text.unifyLineEnds cs) = some (.obj pack) :=
  readPack?_eq_some_iff_json?.trans json?_eq_some

/-- A file `HoldsPack` exactly if it is a pack file in which `readPack?` finds a pack. -/
theorem holdsPack_iff :
    HoldsPack levels d file ↔
      isPackFile file = true ∧ ∃ pack, readPack? levels d file = some pack := by
  simp only [HoldsPack, readPack?_eq_some]
  refine and_congr_right fun _ => ⟨?_, ?_⟩
  · rintro ⟨content, cs, pack, h⟩
    exact ⟨pack, content, cs, h⟩
  · rintro ⟨pack, content, cs, h⟩
    exact ⟨content, cs, pack, h⟩

private theorem addFile_of_holdsPack (h : HoldsPack levels d file) (b : Phrasebook) :
    ∃ pack, addFile levels d b file = b.add (codeOf file) pack := by
  obtain ⟨hfile, pack, hpack⟩ := holdsPack_iff.1 h
  exact ⟨pack, by rw [addFile, if_pos hfile, hpack]⟩

private theorem addFile_of_not_holdsPack (h : ¬ HoldsPack levels d file) (b : Phrasebook) :
    addFile levels d b file = b := by
  rw [holdsPack_iff] at h
  unfold addFile
  -- the name is not that of a pack, or `readPack?` finds nothing
  split
  · rename_i hfile
    split
    · rename_i pack hpack
      exact absurd ⟨hfile, pack, hpack⟩ h
    · rfl
  · rfl

/-- `addFiles` finds no pack exactly if there was none before and none of the files `HoldsPack`. -/
theorem packs_addFiles_eq_nil {files : List String} {b : Phrasebook} :
    (addFiles levels d files b).packs = [] ↔
      b.packs = [] ∧ ∀ file ∈ files, ¬ HoldsPack levels d file := by
  induction files generalizing b with
  | nil => simp [addFiles]
  | cons file files ih =>
    simp only [addFiles, List.foldl_cons] at ih ⊢
    rw [ih, List.forall_mem_cons]
    -- a pack that was added stays, whatever the files behind it hold
    by_cases h : HoldsPack levels d file
    · obtain ⟨pack, hpack⟩ := addFile_of_holdsPack h b
      rw [hpack]
      simp [add, h]
    · rw [addFile_of_not_holdsPack h]
      simp [h]

/-- `addFiles` changes nothing of a phrasebook but its packs. -/
theorem exists_addFiles_eq (levels : Nat) (d : Disk) (files : List String) (b : Phrasebook) :
    ∃ packs, addFiles levels d files b = { b with packs } := by
  induction files generalizing b with
  | nil => exact ⟨b.packs, rfl⟩
  | cons file files ih =>
    simp only [addFiles, List.foldl_cons] at ih ⊢
    by_cases h : HoldsPack levels d file
    · obtain ⟨pack, hpack⟩ := addFile_of_holdsPack h b
      rw [hpack]
      exact ih (b.add (codeOf file) pack)
    · rw [addFile_of_not_holdsPack h]
      exact ih b

private theorem language_addFiles (levels : Nat) (d : Disk) (files : List String) (b : Phrasebook) :
    (addFiles levels d files b).language = b.language := by
  obtain ⟨packs, h⟩ := exists_addFiles_eq levels d files b
  rw [h]

end

/-! ## Reading the folder -/

/-- The world `w` with the packs in `files`, and no others. -/
def loaded (w : World) (files : List String) : World :=
  { w with phrasebook := addFiles w.nesting w.disk files { w.phrasebook with packs := [] } }

/-- The disk `d` with a new folder for the packs that has the English one in it. -/
def withEnglish (d : Disk) : Disk :=
  { d with entries := Table.put d.entries folder (.folder [(englishFile, .file englishBytes)]) }

theorem get?_withEnglish (d : Disk) :
    Table.get? (withEnglish d).entries folder =
      some (.folder [(englishFile, .file englishBytes)]) := by
  rw [withEnglish, Table.get?_put_self]

/-- The disk `d` with a folder for the packs that has `entries` and the English pack. -/
def withEnglishIn (d : Disk) (entries : Table String Node) : Disk :=
  { d with
    entries :=
      Table.put d.entries folder (.folder (Table.put entries englishFile (.file englishBytes))) }

theorem get?_withEnglishIn (d : Disk) (entries : Table String Node) :
    Table.get? (withEnglishIn d entries).entries folder =
      some (.folder (Table.put entries englishFile (.file englishBytes))) := by
  rw [withEnglishIn, Table.get?_put_self]

theorem find_folder (d : Disk) :
    d.find folder =
      match Table.get? d.entries folder with
      | none => .error .missing
      | some node => .ok node :=
  d.find_name (by decide) (by decide) (by decide)

theorem get?_of_find {d : Disk} {node : Node} (h : d.find folder = .ok node) :
    Table.get? d.entries folder = some node := by
  rw [find_folder] at h
  split at h <;> cases h
  assumption

theorem get?_of_find_error {d : Disk} {failure : Disk.Failure}
    (h : d.find folder = .error failure) : Table.get? d.entries folder = none := by
  rw [find_folder] at h
  split at h
  · assumption
  · cases h

/-- `readFolder` fails if there is a file in the place of the folder. -/
theorem exec_readFolder_of_file {w : World} {content : List UInt8}
    (h : w.disk.find folder = .ok (.file content)) :
    readFolder.exec w =
      (.error (.disk .notFolder folder),
        { w with phrasebook := { w.phrasebook with packs := [] } }) := by
  simp only [readFolder, exec_bind, exec_modify, exec_get, Disk.has, h, Bool.not_true,
    Bool.false_eq_true, if_false, exec_listFolder, Disk.list]
  rfl

/-- `readFolder` loads the packs in the folder in the order of `listing`. -/
theorem exec_readFolder_of_folder {w : World} {entries : Table String Node}
    (h : w.disk.find folder = .ok (.folder entries)) :
    readFolder.exec w = (.ok (), loaded w (w.disk.listing entries)) := by
  simp only [readFolder, exec_bind, exec_modify, exec_get, Disk.has, h, Bool.not_true,
    Bool.false_eq_true, if_false, exec_listFolder, Disk.list]
  rfl

/-- `writeEnglish` writes into the folder, unless there is a folder of the pack's name. -/
theorem exec_writeEnglish {w : World} {inner : Table String Node}
    (h : Table.get? w.disk.entries folder = some (.folder inner)) :
    writeEnglish.exec w =
      match Table.get? inner englishFile with
      | some (.folder _) => (.error (.disk .isFolder (folder ++ "/en.json")), w)
      | _ => (.ok (), { w with disk := withEnglishIn w.disk inner }) := by
  have hparts : Disk.parts (folder ++ "/en.json") = [folder, englishFile] := by decide
  rw [writeEnglish, exec_writeText, w.disk.write_inner _ hparts, h]
  dsimp only
  rcases Table.get? inner englishFile with _ | (_ | _) <;> rfl

/-- `readFolder` makes the folder if it is not there, and then the English pack is all there is to
    read. -/
theorem exec_readFolder_of_missing {w : World} {failure : Disk.Failure}
    (h : w.disk.find folder = .error failure) :
    readFolder.exec w =
      (.ok (), loaded { w with disk := withEnglish w.disk } [englishFile]) := by
  have hnone : Table.get? w.disk.entries folder = none := get?_of_find_error h
  have hmade : w.disk.makeFolder folder =
      { w.disk with entries := Table.put w.disk.entries folder (.folder []) } := by
    rw [Disk.makeFolder, hnone]
  -- the English pack is written into the new folder
  have hwrite (v : World)
      (hv : v.disk = { w.disk with entries := Table.put w.disk.entries folder (.folder []) }) :
      writeEnglish.exec v = (.ok (), { v with disk := withEnglish w.disk }) := by
    have hfolder : Table.get? v.disk.entries folder = some (.folder []) := by
      rw [hv, Table.get?_put_self]
    have hdisk : withEnglishIn v.disk [] = withEnglish w.disk := by
      rw [withEnglishIn, hv, Table.put_put]
      rfl
    rw [exec_writeEnglish hfolder, hdisk]
    rfl
  have hlist : (withEnglish w.disk).list folder = .ok [englishFile] := by
    rw [Disk.list, find_folder, get?_withEnglish]
    exact congrArg Except.ok (Disk.listing_singleton _ _)
  simp only [readFolder, exec_bind, exec_modify, exec_get, Disk.has, h, Bool.not_false, if_true,
    exec_ensureFolder, Bool.false_eq_true, if_false, hmade, hwrite, exec_listFolder, hlist]
  rfl

/-! ## Loading the packs -/

/-- The two reasons why no packs can be loaded: there is a file in the place of their folder, or no
    file in the folder `HoldsPack` and the English one cannot be written. -/
def NoPacks (levels : Nat) (d : Disk) : Prop :=
  (∃ content, d.find folder = .ok (.file content)) ∨
  ∃ entries, d.find folder = .ok (.folder entries) ∧
    (∀ file ∈ Table.names entries, ¬ HoldsPack levels d file) ∧
    ∃ inner, d.find (folder ++ "/" ++ englishFile) = .ok (.folder inner)

/-- `find` at the place of the English pack is a look-up in the folder of the packs. -/
theorem find_english {d : Disk} {inner : Table String Node}
    (h : Table.get? d.entries folder = some (.folder inner)) :
    d.find (folder ++ "/" ++ englishFile) =
      match Table.get? inner englishFile with
      | none => .error .missing
      | some node => .ok node := by
  have hinner := d.find_inner (by decide)
    (by decide : Disk.parts (folder ++ "/" ++ englishFile) = [folder, englishFile])
    (by decide) (by decide)
  rw [h] at hinner
  exact hinner

/-- `readPack?` gives back `english` once it is written, however deep the reader goes. -/
theorem readPack?_english (levels : Nat) {d : Disk} {inner : Table String Node}
    (h : Table.get? d.entries folder = some (.folder inner))
    (hfile : Table.get? inner englishFile = some (.file englishBytes)) :
    readPack? levels d englishFile = some english := by
  obtain ⟨hwritable, hnesting⟩ := writable_english
  have hread : d.read (folder ++ "/" ++ englishFile) = .ok englishBytes := by
    rw [Disk.read, find_english h, hfile]
  -- the pack has no lists and objects inside, so any reader takes it
  exact readPack?_eq_some_iff_json?.2 (Json.json?_of_read hwritable (by omega) hread)

/-- The file of the English pack `HoldsPack` once it is written. -/
theorem holdsPack_english (levels : Nat) {d : Disk} {inner : Table String Node}
    (h : Table.get? d.entries folder = some (.folder inner))
    (hfile : Table.get? inner englishFile = some (.file englishBytes)) :
    HoldsPack levels d englishFile :=
  holdsPack_iff.2 ⟨by decide, english, readPack?_english levels h hfile⟩

/-- A world in which a pack was found has packs. -/
theorem packs_loaded_ne_nil {w : World} {files : List String} {file : String} (hmem : file ∈ files)
    (h : HoldsPack w.nesting w.disk file) : (loaded w files).phrasebook.packs ≠ [] :=
  fun hnil => (packs_addFiles_eq_nil.1 hnil).2 file hmem h

theorem packs_withEnglish_ne_nil (w : World) :
    (loaded { w with disk := withEnglish w.disk } [englishFile]).phrasebook.packs ≠ [] :=
  packs_loaded_ne_nil List.mem_cons_self (holdsPack_english _ (get?_withEnglish _) rfl)

/-- `load` fails if `readFolder` does. -/
private theorem exec_load_of_fault {w v : World} {f : Fault}
    (h : readFolder.exec w = (.error f, v)) :
    load.exec w = (.error f, v) := by
  simp only [load, exec_bind, h]

/-- `load` reads the folder only once if it finds a pack. -/
theorem exec_load_of_packs {w v : World} (h : readFolder.exec w = (.ok (), v))
    (hpacks : v.phrasebook.packs ≠ []) : load.exec w = (.ok (), v) := by
  have hsome : v.phrasebook.packs.isEmpty = false := by simpa using hpacks
  simp only [load, exec_bind, h, exec_get, hsome, Bool.false_eq_true, if_false]
  rfl

/-- If `readFolder` finds no pack, `load` writes the English one and reads again. -/
private theorem exec_load_of_empty {w v : World} (h : readFolder.exec w = (.ok (), v))
    (hpacks : v.phrasebook.packs = []) :
    load.exec w = (do writeEnglish; readFolder : Play Unit).exec v := by
  have hsome : v.phrasebook.packs.isEmpty = true := by simpa using hpacks
  simp only [load, exec_bind, h, exec_get, hsome, if_true]

/-- The second reading of `load`: the English pack is written into the folder, unless another folder
    is in its place, and then the folder is read. -/
private theorem exec_writeEnglish_readFolder {w : World} {entries : Table String Node}
    (h : Table.get? w.disk.entries folder = some (.folder entries)) :
    (do writeEnglish; readFolder : Play Unit).exec w =
      match Table.get? entries englishFile with
      | some (.folder _) => (.error (.disk .isFolder (folder ++ "/en.json")), w)
      | _ => (.ok (), loaded { w with disk := withEnglishIn w.disk entries }
          (w.disk.listing (Table.put entries englishFile (.file englishBytes)))) := by
  have hfind : (withEnglishIn w.disk entries).find folder =
      .ok (.folder (Table.put entries englishFile (.file englishBytes))) := by
    rw [find_folder, get?_withEnglishIn]
  -- if the pack can be written, the folder that is read afterwards is the new one
  have hread :=
    exec_readFolder_of_folder (w := { w with disk := withEnglishIn w.disk entries }) hfind
  rw [exec_bind, exec_writeEnglish h]
  rcases Table.get? entries englishFile with _ | (_ | _)
  · exact hread
  · exact hread
  · rfl

/-- `Loads w out`: the outcome of `load` in `w` in each case, by what is in the place of the
    folder. -/
inductive Loads (w : World) : Except Fault Unit × World → Prop where
  /-- There is a file in the place of the folder. -/
  | file {content : List UInt8} (hfind : w.disk.find folder = .ok (.file content)) :
      Loads w (.error (.disk .notFolder folder),
        { w with phrasebook := { w.phrasebook with packs := [] } })
  /-- There is no folder, and it is made with the English pack in it. -/
  | made {failure : Disk.Failure} (hfind : w.disk.find folder = .error failure) :
      Loads w (.ok (), loaded { w with disk := withEnglish w.disk } [englishFile])
  /-- There is a pack in the folder. -/
  | found {entries : Table String Node} {file : String}
      (hfind : w.disk.find folder = .ok (.folder entries)) (hmem : file ∈ Table.names entries)
      (hpack : HoldsPack w.nesting w.disk file) :
      Loads w (.ok (), loaded w (w.disk.listing entries))
  /-- There is no pack in the folder, and the English one cannot be written. -/
  | blocked {entries inner : Table String Node}
      (hfind : w.disk.find folder = .ok (.folder entries))
      (hnone : ∀ file ∈ Table.names entries, ¬ HoldsPack w.nesting w.disk file)
      (hplace : w.disk.find (folder ++ "/" ++ englishFile) = .ok (.folder inner)) :
      Loads w (.error (.disk .isFolder (folder ++ "/en.json")), loaded w (w.disk.listing entries))
  /-- There is no pack in the folder, and the English one is written and read. -/
  | written {entries : Table String Node} (hfind : w.disk.find folder = .ok (.folder entries))
      (hnone : ∀ file ∈ Table.names entries, ¬ HoldsPack w.nesting w.disk file)
      (hplace : ∀ inner, w.disk.find (folder ++ "/" ++ englishFile) ≠ .ok (.folder inner)) :
      Loads w (.ok (),
        loaded { loaded w (w.disk.listing entries) with disk := withEnglishIn w.disk entries }
          (w.disk.listing (Table.put entries englishFile (.file englishBytes))))

/-- `load` ends in one of the ways of `Loads`. -/
theorem loads_exec_load (w : World) : Loads w (load.exec w) := by
  rcases hfind : w.disk.find folder with failure | (content | entries)
  · -- no folder, a file, or a folder
    rw [exec_load_of_packs (exec_readFolder_of_missing hfind) (packs_withEnglish_ne_nil w)]
    exact .made hfind
  · rw [exec_load_of_fault (exec_readFolder_of_file hfind)]
    exact .file hfind
  · have hread := exec_readFolder_of_folder hfind
    by_cases hpack : ∃ file ∈ Table.names entries, HoldsPack w.nesting w.disk file
    · obtain ⟨file, hmem, hpack⟩ := hpack
      rw [exec_load_of_packs hread (packs_loaded_ne_nil (Disk.mem_listing.2 hmem) hpack)]
      exact .found hfind hmem hpack
    · -- the folder holds no pack, so the English one is to be written
      have hnone : ∀ file ∈ Table.names entries, ¬ HoldsPack w.nesting w.disk file :=
        fun file hmem h => hpack ⟨file, hmem, h⟩
      have hpacks : (loaded w (w.disk.listing entries)).phrasebook.packs = [] :=
        packs_addFiles_eq_nil.2 ⟨rfl, fun file hmem => hnone file (Disk.mem_listing.1 hmem)⟩
      have hfolder : Table.get? (loaded w (w.disk.listing entries)).disk.entries folder =
          some (.folder entries) := get?_of_find hfind
      have hplace := find_english (get?_of_find hfind)
      rw [exec_load_of_empty hread hpacks, exec_writeEnglish_readFolder hfolder]
      -- only a folder in its place keeps it from being written
      rcases henglish : Table.get? entries englishFile with _ | (_ | inner) <;>
        rw [henglish] at hplace
      · exact .written hfind hnone (by rw [hplace]; intro inner h; cases h)
      · exact .written hfind hnone (by rw [hplace]; intro inner h; cases h)
      · exact .blocked hfind hnone hplace

section

variable {w : World} {out : Except Fault Unit × World}

/-- Loading fails exactly if there are `NoPacks` to load. -/
theorem Loads.fault_iff (h : Loads w out) : (∃ f, out.1 = .error f) ↔ NoPacks w.nesting w.disk := by
  have hok : ¬ ∃ f, (.ok () : Except Fault Unit) = .error f := by
    rintro ⟨f, hf⟩
    cases hf
  -- the two reasons are the two failing ways, and exclude the other three
  cases h with
  | file hfind => exact iff_of_true ⟨_, rfl⟩ (.inl ⟨_, hfind⟩)
  | blocked hfind hnone hplace => exact iff_of_true ⟨_, rfl⟩ (.inr ⟨_, hfind, hnone, _, hplace⟩)
  | made hfind =>
    refine iff_of_false hok ?_
    rintro (⟨content, h⟩ | ⟨entries, h, -⟩) <;> rw [hfind] at h <;> cases h
  | found hfind hmem hpack =>
    refine iff_of_false hok ?_
    rintro (⟨content, h⟩ | ⟨entries, h, hnone, -⟩) <;> rw [hfind] at h <;> cases h
    exact hnone _ hmem hpack
  | written hfind hnone hplace =>
    refine iff_of_false hok ?_
    rintro (⟨content, h⟩ | ⟨entries, h, -, inner, hinner⟩) <;> rw [hfind] at h <;> cases h
    exact hplace inner hinner

/-- Loading keeps the language. -/
theorem Loads.language (h : Loads w out) : out.2.phrasebook.language = w.phrasebook.language := by
  cases h with
  | file => rfl
  | made => exact language_addFiles _ _ _ _
  | found => exact language_addFiles _ _ _ _
  | blocked => exact language_addFiles _ _ _ _
  | written => exact (language_addFiles _ _ _ _).trans (language_addFiles _ _ _ _)

/-- Loading shows nothing and asks nothing. -/
theorem Loads.console (h : Loads w out) : out.2.console = w.console := by
  cases h <;> rfl

end

end Phrasebook

end Gamebook

import Gamebook.Proofs.PromptRules
import Gamebook.Proofs.Reload

/-!
# Two tables in step

A phrasebook has two tables: the names of the languages and the packs, both by their codes. They are
filled together, file by file: a file that holds a pack sets an entry in each of them, and any other
file sets none. So they are always in step. They have the same codes in the same order, and the name
of a language is what its pack says, or else its code in capitals.

Only the loading of packs changes them, and it starts with empty ones. Afterwards the codes are
those of the files in the folder that hold packs, and a code stands for the pack in the last file
that has it.

## Key results

- `Tables.inStep_fill`: tables that were filled are in step
- `Phrasebook.tables_addFiles`: the tables of a phrasebook are filled file by file
- `filled_afterVisits`: calls leave tables that were filled
- `language_tables_stay_in_step`: the tables after any calls, and after the packs are loaded
-/

namespace Gamebook

open Play

/-! ## Filling two tables -/

/-- The languages and the packs by their codes. -/
structure Tables where
  languages : Table Wording Json := []
  packs : Table Wording Json := []

namespace Tables

/-- The value in a file of the folder of packs, if it is text that is JSON. -/
def valueIn? (levels : Nat) (d : Disk) (file : String) : Option Json := do
  let content ← (d.read (Phrasebook.folder ++ "/" ++ file)).toOption
  let cs ← (Text.Utf8.decode content).toOption
  Json.parse levels (Text.unifyLineEnds cs)

/-- Sets the entries of a code. Only objects can be asked for the name of a language, so any other
    value sets none. -/
def put (t : Tables) (code : Wording) : Json → Tables
  | .obj pack =>
    { languages := Table.put t.languages code
        ((Table.get? pack "language_name").getD (.str (Wording.upper code)))
      packs := Table.put t.packs code (.obj pack) }
  | _ => t

/-- Sets the entries of a file whose name is that of a pack. -/
def addFile (levels : Nat) (d : Disk) (t : Tables) (file : String) : Tables :=
  if Phrasebook.isPackFile file then
    match valueIn? levels d file with
    | some v => t.put (Phrasebook.codeOf file) v
    | none => t
  else t

/-- The tables that some files fill, one after the other. -/
def fill (levels : Nat) (d : Disk) (files : List String) : Tables :=
  files.foldl (addFile levels d) {}

/-- Tables in step: the same codes in the same order, each of them once, and for each of them an
    object and the name of its language. -/
structure InStep (t : Tables) : Prop where
  names : Table.names t.languages = Table.names t.packs
  nodup : (Table.names t.packs).Nodup
  entry : ∀ code v, Table.get? t.packs code = some v → ∃ pack, v = .obj pack ∧
    Table.get? t.languages code =
      some ((Table.get? pack "language_name").getD (.str (Wording.upper code)))

private theorem inStep_empty : InStep {} :=
  ⟨rfl, List.nodup_nil, fun _ _ h => by cases h⟩

/-- `put` sets the entries of a code in both tables, or in neither. -/
theorem InStep.put {t : Tables} (h : t.InStep) (code : Wording) (v : Json) :
    (t.put code v).InStep := by
  cases v with
  | obj pack =>
    refine ⟨?_, ?_, fun other v hv => ?_⟩
    · rw [Tables.put, Table.names_put, Table.names_put, h.names]
    · -- a code that is new stands at the end of both
      simp only [Tables.put, Table.names_put]
      split
      · exact h.nodup
      · rename_i hnew
        exact List.nodup_append.2 ⟨h.nodup, List.nodup_singleton _, by
          rintro a ha b hb rfl
          exact hnew (List.mem_singleton.1 hb ▸ ha)⟩
    · simp only [Tables.put, Table.get?_put] at hv ⊢
      -- the entry of this code is new, and the others are as they were
      by_cases hcode : code = other
      · subst hcode
        rw [if_pos rfl] at hv ⊢
        exact ⟨pack, (Option.some.inj hv).symm, rfl⟩
      · rw [if_neg hcode] at hv ⊢
        exact h.entry other v hv
  | _ => exact h

/-- `addFile` keeps tables in step, whatever the file holds. -/
theorem InStep.addFile {t : Tables} (h : t.InStep) (levels : Nat) (d : Disk) (file : String) :
    (t.addFile levels d file).InStep := by
  unfold Tables.addFile
  split
  · split
    · exact h.put _ _
    · exact h
  · exact h

/-- Whatever the files are, the tables that they `fill` are in step. -/
theorem inStep_fill (levels : Nat) (d : Disk) (files : List String) :
    (fill levels d files).InStep := by
  have hfold (t : Tables) (h : t.InStep) : (files.foldl (Tables.addFile levels d) t).InStep := by
    induction files generalizing t with
    | nil => exact h
    | cons file files ih => exact ih _ (h.addFile levels d file)
  exact hfold _ inStep_empty

end Tables

/-! ## The tables of a phrasebook -/

/-- Setting a value in a table whose values are made of others. -/
private theorem Table.put_map {α β γ : Type} [DecidableEq α] (f : α → β → γ) (t : Table α β)
    (name : α) (value : β) :
    Table.put (t.map fun entry => (entry.1, f entry.1 entry.2)) name (f name value) =
      (Table.put t name value).map fun entry => (entry.1, f entry.1 entry.2) := by
  induction t with
  | nil => rfl
  | cons entry t ih =>
    obtain ⟨n, v⟩ := entry
    by_cases hn : n = name
    · subst hn
      simp [Table.put]
    · simpa [Table.put, hn] using ih

namespace Phrasebook

/-- The tables of a phrasebook. -/
def tables (b : Phrasebook) : Tables where
  languages := b.languages
  packs := b.packs.map fun entry => (entry.1, .obj entry.2)

/-- To `add` a pack is to `put` it in the tables. -/
private theorem tables_add (b : Phrasebook) (code : Wording) (pack : Table Wording Json) :
    (b.add code pack).tables = b.tables.put code (.obj pack) := by
  have hlanguages := Table.put_map packName b.packs code pack
  have hpacks := Table.put_map (fun _ pack => Json.obj pack) b.packs code pack
  exact congrArg₂ Tables.mk hlanguages.symm hpacks.symm

/-- `readPack?` takes the values that are objects. -/
private theorem readPack?_eq_bind (levels : Nat) (d : Disk) (file : String) :
    readPack? levels d file = (Tables.valueIn? levels d file).bind fun
      | .obj pack => some pack
      | _ => none := by
  have hvalue : Tables.valueIn? levels d file = d.json? levels (folder ++ "/" ++ file) := rfl
  rw [readPack?, hvalue]
  rcases d.json? levels (folder ++ "/" ++ file) with _ | v
  · rfl
  · cases v <;> rfl

/-- `Phrasebook.addFile` does to the tables what `Tables.addFile` does. -/
private theorem tables_addFile (levels : Nat) (d : Disk) (b : Phrasebook) (file : String) :
    (addFile levels d b file).tables = b.tables.addFile levels d file := by
  unfold addFile Tables.addFile
  split
  · rw [readPack?_eq_bind]
    cases Tables.valueIn? levels d file with
    | none => rfl
    | some v =>
      -- only an object is a pack
      cases v with
      | obj pack => exact tables_add b _ pack
      | _ => rfl
  · rfl

/-- The tables of a phrasebook are filled file by file. -/
theorem tables_addFiles (levels : Nat) (d : Disk) (files : List String) (b : Phrasebook) :
    (addFiles levels d files b).tables = files.foldl (Tables.addFile levels d) b.tables := by
  induction files generalizing b with
  | nil => rfl
  | cons file files ih =>
    rw [addFiles, List.foldl_cons, List.foldl_cons, ← tables_addFile]
    exact ih _

private theorem tables_loaded (w : World) (files : List String) :
    (loaded w files).phrasebook.tables = Tables.fill w.nesting w.disk files :=
  tables_addFiles _ _ _ _

end Phrasebook

/-! ## Calls -/

/-- A world whose tables were filled with the files of some disk. -/
def Filled (w : World) : Prop :=
  ∃ levels d files, w.phrasebook.tables = Tables.fill levels d files

/-- A step that leaves the packs alone leaves the tables `Filled`. -/
private theorem Filled.of_packs {α : Type} {p : Play α}
    (h : ∀ w, (p.exec w).2.phrasebook.packs = w.phrasebook.packs) : Keeps Filled p := by
  rintro w ⟨levels, d, files, hw⟩
  refine ⟨levels, d, files, ?_⟩
  rw [← hw, Phrasebook.tables, Phrasebook.tables, Phrasebook.languages, Phrasebook.languages, h w]

/-- The prompt leaves the tables `Filled`, since games leave the phrasebook alone. -/
theorem Filled.rules : PromptRules (Keeps Filled) :=
  .of_inGame (fun h => of_packs fun w => congrArg _ (h.phrasebook_eq w)) .bind .traced .look
    fun _ => of_packs fun _ => rfl

/-- Loading the packs fills the tables anew, whether it fails or not. -/
theorem Filled.load : Keeps Filled Phrasebook.load := by
  intro w _
  have hloads := Phrasebook.loads_exec_load w
  generalize Phrasebook.load.exec w = out at hloads ⊢
  -- where no file could be listed, the tables are those of no files
  cases hloads with
  | file => exact ⟨w.nesting, w.disk, [], rfl⟩
  | made => exact ⟨_, _, _, Phrasebook.tables_loaded _ _⟩
  | found => exact ⟨_, _, _, Phrasebook.tables_loaded _ _⟩
  | blocked => exact ⟨_, _, _, Phrasebook.tables_loaded _ _⟩
  | written => exact ⟨_, _, _, Phrasebook.tables_loaded _ _⟩

theorem Filled.loadSettings : Keeps Filled Settings.load := of_packs fun w => by
  rw [Settings.load, exec_modify]
  dsimp only
  split <;> rfl

theorem Filled.save : Keeps Filled Settings.save := of_packs fun w => by
  rw [Settings.save, exec_modify]
  dsimp only
  split <;> rfl

theorem Filled.writeEnglish : Keeps Filled Phrasebook.writeEnglish := of_packs fun w => by
  rw [Phrasebook.writeEnglish, exec_writeText]
  split <;> rfl

/-- `changeLanguage` chooses out of the same tables. -/
theorem Filled.changeLanguage (code : String) : Keeps Filled (Prompt.changeLanguage code) :=
  rules.changeLanguage (fun _ => of_packs fun _ => rfl) save code

theorem Filled.recover (m : Mishap) : Keeps Filled (Prompt.recover m) := by
  unfold Prompt.recover
  split
  · exact .bind (rules.tell _ _) fun _ => .pure _
  · exact .bind (rules.tell _ _) fun _ => .pure _
  · exact .look fun _ => .bind (rules.tell _ _) fun _ => .pure _

/-- A turn at the prompt leaves the tables `Filled`, also when it runs into a fault. -/
theorem Filled.turn : Keeps Filled Prompt.turn :=
  .tryCatch (.bind (rules.askPhrase _ _) fun typed =>
    .bind (rules.command_of_changeLanguage changeLanguage typed) fun _ => .pure _) recover

/-- A session loads the packs once, and its turns leave the tables `Filled`. -/
theorem Filled.session : Keeps Filled Prompt.session := by
  have hgreet : Keeps Filled Prompt.greet :=
    .bind loadSettings fun _ => .bind load fun _ =>
      .bind rules.ensureStories fun _ => rules.welcome
  exact .bind hgreet fun _ => rules.repeatTurn turn

/-- Every call leaves the tables `Filled`. -/
theorem Filled.call (called : Call) : Keeps Filled called.perform := by
  cases called with
  | loadSettings => exact .bind loadSettings fun _ => .pure _
  | saveSettings => exact .bind save fun _ => .pure _
  | loadPacks => exact .bind load fun _ => .pure _
  | writeEnglish => exact .bind writeEnglish fun _ => .pure _
  | changeLanguage code => exact rules.map _ (changeLanguage code)
  | session => exact .bind session fun _ => .pure _
  | _ => exact rules.call rfl

/-- Calls from the start leave tables that were `Filled`. -/
theorem filled_afterVisits {w : World} (h : Filled w) (visits : List Visit) :
    Filled (w.afterVisits visits) := by
  induction visits generalizing w with
  | nil => exact h
  | cons visit visits ih => exact ih (Filled.call visit.called (w.before visit) h)

/-! ## Tables right after loading -/

/-- Looking up in a table whose values are made of others. -/
private theorem Table.get?_map {α β γ : Type} [DecidableEq α] (f : β → γ) (t : Table α β)
    (name : α) :
    Table.get? (t.map fun entry => (entry.1, f entry.2)) name = (Table.get? t name).map f := by
  induction t with
  | nil => rfl
  | cons entry t ih =>
    obtain ⟨n, v⟩ := entry
    by_cases hn : n = name
    · simp [Table.get?, hn]
    · simpa [Table.get?, hn] using ih

namespace Phrasebook

/-- A file in the folder of the packs that holds a value: its name ends like that of a pack, and it
    is text that reads as this value, which is an object. -/
def Holds (levels : Nat) (d : Disk) (file : String) (v : Json) : Prop :=
  isPackFile file = true ∧ ∃ content cs pack, d.read (folder ++ "/" ++ file) = .ok content ∧
    Text.Utf8.decode content = .ok cs ∧ Json.parse levels (Text.unifyLineEnds cs) = some v ∧
    v = .obj pack

/-- `Holds` for objects is what `readPack?` finds. -/
private theorem holds_obj_iff {levels : Nat} {d : Disk} {file : String}
    {pack : Table Wording Json} :
    Holds levels d file (.obj pack) ↔
      isPackFile file = true ∧ readPack? levels d file = some pack := by
  rw [readPack?_eq_some, Holds]
  refine and_congr_right fun _ => ⟨?_, ?_⟩
  · rintro ⟨content, cs, -, hread, hdecode, hparse, -⟩
    exact ⟨content, cs, hread, hdecode, hparse⟩
  · rintro ⟨content, cs, hread, hdecode, hparse⟩
    exact ⟨content, cs, pack, hread, hdecode, hparse, rfl⟩

/-- `packFor?` finds the object that the file `Holds`, if the code is its own. -/
private theorem packFor?_eq_some {levels : Nat} {d : Disk} {code : Wording} {file : String}
    {pack : Table Wording Json} :
    packFor? levels d code file = some pack ↔
      (codeOf file : Wording) = code ∧ Holds levels d file (.obj pack) := by
  rw [holds_obj_iff, packFor?]
  split <;> rename_i h
  · simp [h]
  · refine iff_of_false (by simp) fun hpack => h ⟨hpack.2.1, hpack.1⟩

/-- `packFor?` finds something exactly if the file `HoldsPack` and the code is its own. -/
private theorem isSome_packFor? {levels : Nat} {d : Disk} {code : Wording} {file : String} :
    (packFor? levels d code file).isSome = true ↔
      (codeOf file : Wording) = code ∧ HoldsPack levels d file := by
  rw [Option.isSome_iff_exists, holdsPack_iff]
  simp only [packFor?_eq_some, holds_obj_iff, exists_and_left]

end Phrasebook

namespace Tables

open Phrasebook

/-- In tables that were filled, a code stands for the last pack that was found for it. -/
private theorem get?_packs_fill (levels : Nat) (d : Disk) (files : List String) (code : Wording) :
    Table.get? (fill levels d files).packs code =
      (files.reverse.findSome? (packFor? levels d code)).map Json.obj := by
  have htables := tables_addFiles levels d files {}
  rw [fill, show ({} : Tables) = Phrasebook.tables {} from rfl, ← htables]
  rw [Phrasebook.tables, Table.get?_map Json.obj, get?_addFiles]
  exact congrArg _ (Option.or_none)

/-- The codes are those of the files that hold packs. -/
private theorem mem_names_fill {levels : Nat} {d : Disk} {files : List String} {code : Wording} :
    code ∈ Table.names (fill levels d files).packs ↔
      ∃ file ∈ files, (codeOf file : Wording) = code ∧ HoldsPack levels d file := by
  rw [Table.mem_names_iff, get?_packs_fill, Option.isSome_map, List.findSome?_isSome_iff]
  simp only [List.mem_reverse, isSome_packFor?]

/-- A code stands for the pack in the last file that has it. -/
private theorem get?_packs_fill_eq_some {levels : Nat} {d : Disk} {files : List String}
    {code : Wording} {v : Json} :
    Table.get? (fill levels d files).packs code = some v ↔
      ∃ before file after, files = before ++ file :: after ∧ (codeOf file : Wording) = code ∧
        Holds levels d file v ∧
        ∀ other ∈ after, (codeOf other : Wording) = code → ¬ HoldsPack levels d other := by
  have hnone (other : String) : packFor? levels d code other = none ↔
      ((codeOf other : Wording) = code → ¬ HoldsPack levels d other) := by
    rw [← Option.not_isSome_iff_eq_none, isSome_packFor?, not_and]
  rw [get?_packs_fill, Option.map_eq_some_iff]
  simp only [List.findSome?_eq_some_iff, hnone]
  -- the files are searched from their end, so `before` and `after` change places
  constructor
  · rintro ⟨pack, ⟨after, file, before, hfiles, hpack, hafter⟩, rfl⟩
    obtain ⟨hcode, hholds⟩ := packFor?_eq_some.1 hpack
    refine ⟨before.reverse, file, after.reverse, ?_, hcode, hholds, ?_⟩
    · simpa using congrArg List.reverse hfiles
    · exact fun other hmem => hafter other (List.mem_reverse.1 hmem)
  · rintro ⟨before, file, after, rfl, hcode, hholds, hafter⟩
    obtain ⟨-, -, -, pack, -, -, -, rfl⟩ := id hholds
    refine ⟨pack, ⟨after.reverse, file, before.reverse, by simp, ?_, ?_⟩, rfl⟩
    · exact packFor?_eq_some.2 ⟨hcode, hholds⟩
    · exact fun other hmem => hafter other (List.mem_reverse.1 hmem)

end Tables

namespace Phrasebook

private theorem list_of_find {d : Disk} {entries : Table String Node}
    (h : d.find folder = .ok (.folder entries)) : d.list folder = .ok (d.listing entries) := by
  rw [Disk.list, h]

/-- Loading fails with empty tables, or it fills them with the files that are in the folder then. -/
private theorem Loads.tables {w : World} {out : Except Fault Unit × World} (h : Loads w out) :
    ((∃ f, out.1 = .error f) ∧ out.2.phrasebook.tables = {}) ∨
    (out.1 = .ok () ∧ ∃ files, out.2.disk.list folder = .ok files ∧
      out.2.phrasebook.tables = Tables.fill out.2.nesting out.2.disk files) := by
  cases h with
  | file => exact .inl ⟨⟨_, rfl⟩, rfl⟩
  | made =>
    have hfind : (withEnglish w.disk).find folder =
        .ok (.folder [(englishFile, .file englishBytes)]) := by
      rw [find_folder, get?_withEnglish]
    -- the new folder has one file, so there is one way to list it
    have hlist := list_of_find hfind
    rw [Disk.listing_singleton] at hlist
    exact .inr ⟨rfl, _, hlist, tables_loaded _ _⟩
  | found hfind => exact .inr ⟨rfl, _, list_of_find hfind, tables_loaded _ _⟩
  | @blocked entries _ hfind hnone =>
    refine .inl ⟨⟨_, rfl⟩, ?_⟩
    -- no file held a pack, so reading them has left the tables empty
    have hpacks : (loaded w (w.disk.listing entries)).phrasebook.packs = [] :=
      packs_addFiles_eq_nil.2 ⟨rfl, fun file hmem => hnone file (Disk.mem_listing.1 hmem)⟩
    rw [Phrasebook.tables, languages, hpacks]
    rfl
  | @written entries =>
    have hfind : (withEnglishIn w.disk entries).find folder =
        .ok (.folder (Table.put entries englishFile (.file englishBytes))) := by
      rw [find_folder, get?_withEnglishIn]
    exact .inr ⟨rfl, _, list_of_find hfind, tables_loaded _ _⟩

end Phrasebook

/-- The two tables are in step after any calls, on whatever disks: they are what the files of some
    disk have filled. Right after packs were loaded, in any world, these are the files in the
    folder: the codes are those of the files that hold packs, and each stands for the last of its
    packs. If the loading fails there are no codes. -/
theorem language_tables_stay_in_step (disk : Disk) (alone : Bool) (visits : List Visit)
    (u : World) :
    let w := World.afterVisits { disk, alone } visits
    let out := Phrasebook.load.exec u
    let tables := out.2.phrasebook.tables
    (∃ levels d files, w.phrasebook.tables = Tables.fill levels d files) ∧
    w.phrasebook.tables.InStep ∧
    (((∃ f, out.1 = .error f) ∧ tables = {}) ∨
     (out.1 = .ok () ∧ ∃ files, out.2.disk.list Phrasebook.folder = .ok files ∧
      (∀ code, code ∈ Table.names tables.packs ↔ ∃ file ∈ files,
        (Phrasebook.codeOf file : Wording) = code ∧
          Phrasebook.HoldsPack out.2.nesting out.2.disk file) ∧
      ∀ code v, Table.get? tables.packs code = some v ↔
        ∃ before file after, files = before ++ file :: after ∧
          (Phrasebook.codeOf file : Wording) = code ∧
          Phrasebook.Holds out.2.nesting out.2.disk file v ∧
          ∀ other ∈ after, (Phrasebook.codeOf other : Wording) = code →
            ¬ Phrasebook.HoldsPack out.2.nesting out.2.disk other)) := by
  intro w out tables
  have hstart : Filled { disk, alone } := ⟨0, disk, [], rfl⟩
  obtain ⟨levels, d, files, hw⟩ : Filled w := filled_afterVisits hstart visits
  refine ⟨⟨levels, d, files, hw⟩, hw ▸ Tables.inStep_fill levels d files, ?_⟩
  -- a failed load leaves the tables empty, another one fills them from the list of files
  rcases (Phrasebook.loads_exec_load u).tables with hfails | ⟨hok, files, hlist, hfill⟩
  · exact .inl hfails
  · have htables : tables = Tables.fill out.2.nesting out.2.disk files := hfill
    rw [htables]
    exact .inr ⟨hok, files, hlist, fun _ => Tables.mem_names_fill,
      fun _ _ => Tables.get?_packs_fill_eq_some⟩

end Gamebook

import Gamebook.Proofs.Packs
import Gamebook.Proofs.Text.Lines

/-!
# Packs that are always there

Loading the packs is a recursion: if no pack is found, the English one is written and the packs are
loaded again. Nothing gets smaller on the way, so the recursion ends only because the file that was
written is found, is read and is a pack. `Reloads` is the recursion as it stands, and counts its
calls; it calls itself at most once. If it does not fail there are packs, and if the English pack
was written then it is there as it was written.

Two files may have the same code, and the last one of them counts. No file but its own can take the
place of an English pack that was written: there was no other pack at all.

What one loading leaves behind, another one finds. It goes another way if the first one has written
the English pack, and it does not write it again.

## Key results

- `get?_addFiles`: the pack that a code stands for
- `Loads.reloads`: loading is the recursion, with at most one call of itself
- `load_ends_with_packs`: how loading ends
- `load_twice`: loading once more changes nothing
-/

namespace Gamebook.Phrasebook

open Play

/-! ## What a code stands for -/

/-- The pack that a file has for a code. -/
def packFor? (levels : Nat) (d : Disk) (code : Wording) (file : String) :
    Option (Table Wording Json) :=
  if isPackFile file = true ∧ (codeOf file : Wording) = code then readPack? levels d file else none

private theorem get?_addFile (levels : Nat) (d : Disk) (b : Phrasebook) (file : String)
    (code : Wording) :
    Table.get? (addFile levels d b file).packs code =
      (packFor? levels d code file).or (Table.get? b.packs code) := by
  unfold addFile packFor?
  -- the file is no pack file, or holds no pack, or its pack is for a code
  by_cases hfile : isPackFile file = true
  · cases hpack : readPack? levels d file with
    | none => simp [hfile]
    | some pack =>
      by_cases hcode : (codeOf file : Wording) = code
      · simp [hfile, hcode, add, Table.get?_put]
      · simp [hfile, hcode, add, Table.get?_put]
  · simp [hfile]

/-- In the packs of `addFiles`, a code stands for the pack of the last file that has one for it. -/
theorem get?_addFiles (levels : Nat) (d : Disk) (files : List String) (b : Phrasebook)
    (code : Wording) :
    Table.get? (addFiles levels d files b).packs code =
      (files.reverse.findSome? (packFor? levels d code)).or (Table.get? b.packs code) := by
  -- a file further on comes first, since its pack takes the place of earlier ones
  induction files generalizing b with
  | nil => rfl
  | cons file files ih =>
    simp only [addFiles, List.foldl_cons] at ih ⊢
    rw [ih, get?_addFile, List.reverse_cons, List.findSome?_append, Option.or_assoc]
    simp

/-- The `languages` have the codes of the packs, and for each the name that its pack gives. -/
theorem get?_languages (b : Phrasebook) (code : Wording) :
    Table.get? b.languages code = (Table.get? b.packs code).map (packName code) := by
  unfold languages
  induction b.packs with
  | nil => rfl
  | cons entry packs ih =>
    obtain ⟨name, pack⟩ := entry
    by_cases h : name = code
    · subst h
      simp [Table.get?]
    · simpa [Table.get?, h] using ih

/-! ## Files of the English code -/

/-- The code of the English pack. -/
def englishCode : Wording := "en"

/-- A file of the English code is no path to somewhere else: of its name only the ending is taken
    away by `codeOf`. -/
private theorem slash_not_mem_of_codeOf {file : String}
    (h : (codeOf file : Wording) = englishCode) :
    '/' ∉ file.toList := by
  intro hmem
  have hcode : codeOf file = "en" := Wording.ofString_injective h
  have hrest : '/' ∈ (codeOf file).toList := by
    rw [codeOf, String.toList_ofList]
    exact Text.mem_replaceAll (by decide) (by decide) hmem
  rw [hcode] at hrest
  revert hrest
  decide

/-- The name of a file that `isPackFile` is a name in its folder. -/
theorem isName_of_isPackFile {file : String} (h : isPackFile file = true) : Disk.IsName file := by
  refine ⟨?_, ?_, ?_⟩ <;> rintro rfl <;> revert h <;> decide

/-- `readPack?` finds the same pack on two disks if the file is the same in their folders of
    packs. -/
private theorem readPack?_congr {levels : Nat} {d d' : Disk} {inner inner' : Table String Node}
    {file : String}
    (h : Table.get? d.entries folder = some (.folder inner))
    (h' : Table.get? d'.entries folder = some (.folder inner')) (hslash : '/' ∉ file.toList)
    (hname : Disk.IsName file) (hsame : Table.get? inner file = Table.get? inner' file) :
    readPack? levels d file = readPack? levels d' file := by
  have hfind : d.find (folder ++ "/" ++ file) = d'.find (folder ++ "/" ++ file) := by
    have hfolder : Disk.IsName folder := by decide
    have hparts : Disk.parts (folder ++ "/" ++ file) = [folder, file] :=
      Disk.parts_inner (by decide) hslash
    -- a path that cannot be is found on neither disk
    by_cases hpath : Disk.isPath (folder ++ "/" ++ file) = true
    · rw [d.find_inner hpath hparts hfolder hname, d'.find_inner hpath hparts hfolder hname, h, h']
      simp only [hsame]
    · simp only [Disk.find, hpath, Bool.false_eq_true, if_false]
  simp only [readPack?, Disk.json?, Disk.read, hfind]

/-- If its own file is the only one that holds a pack of its code, the `english` pack is loaded as
    it was written. -/
private theorem get?_english {levels : Nat} {d : Disk} {files : List String} (b : Phrasebook)
    (hmem : englishFile ∈ files) (hpack : readPack? levels d englishFile = some english)
    (hothers : ∀ file ∈ files, file ≠ englishFile → packFor? levels d englishCode file = none) :
    Table.get? (addFiles levels d files { b with packs := [] }).packs englishCode =
      some english := by
  have hown : packFor? levels d englishCode englishFile = some english := by
    rw [packFor?, if_pos (by decide), hpack]
  rw [get?_addFiles]
  -- the last file with a pack of this code can only be its own
  cases hfound : files.reverse.findSome? (packFor? levels d englishCode) with
  | none =>
    have hnone := List.findSome?_eq_none_iff.1 hfound englishFile (List.mem_reverse.2 hmem)
    rw [hown] at hnone
    cases hnone
  | some pack =>
    obtain ⟨file, hfile, hpack⟩ := List.exists_of_findSome?_eq_some hfound
    by_cases h : file = englishFile
    · rw [h, hown] at hpack
      rw [hpack]
      rfl
    · rw [hothers file (List.mem_reverse.1 hfile) h] at hpack
      cases hpack

/-- The pack `english` is loaded as it was written, and under its name. -/
def HasEnglish (b : Phrasebook) : Prop :=
  Table.get? b.packs "en" = some english ∧ Table.get? b.languages "en" = some (.str "English")

/-- A phrasebook `HasEnglish` if its code stands for that pack: the name is in the pack. -/
private theorem hasEnglish_of_get? {b : Phrasebook}
    (h : Table.get? b.packs englishCode = some english) :
    HasEnglish b := by
  have hname : packName englishCode english = .str "English" := by
    have hfirst : Table.get? english "language_name" = some (.str "English") := if_pos rfl
    rw [packName, hfirst]
    rfl
  refine ⟨h, ?_⟩
  rw [get?_languages]
  show (Table.get? b.packs englishCode).map (packName englishCode) = _
  rw [h, Option.map_some, hname]

private theorem HasEnglish.packs_ne_nil {b : Phrasebook} (h : HasEnglish b) : b.packs ≠ [] := by
  intro hnil
  have hget := h.1
  rw [hnil] at hget
  cases hget

/-! ## English packs that were written -/

/-- The first loading in a new folder `HasEnglish`, as no other pack is there. -/
private theorem hasEnglish_withEnglish (w : World) :
    HasEnglish (loaded { w with disk := withEnglish w.disk } [englishFile]).phrasebook := by
  have hpack := readPack?_english w.nesting (get?_withEnglish w.disk) rfl
  refine hasEnglish_of_get? (get?_english _ List.mem_cons_self hpack ?_)
  intro file hfile hne
  exact absurd (List.mem_singleton.1 hfile) hne

/-- A pack that is written into a folder without packs has no rival, so the next loading
    `HasEnglish`. -/
private theorem hasEnglish_withEnglishIn {w : World} {entries : Table String Node} (b : Phrasebook)
    (hfind : w.disk.find folder = .ok (.folder entries))
    (hnone : ∀ file ∈ Table.names entries, ¬ HoldsPack w.nesting w.disk file) :
    HasEnglish (addFiles w.nesting (withEnglishIn w.disk entries)
      (w.disk.listing (Table.put entries englishFile (.file englishBytes)))
      { b with packs := [] }) := by
  have hfolder := get?_withEnglishIn w.disk entries
  have hpack := readPack?_english w.nesting hfolder (Table.get?_put_self _ _ _)
  -- what is listed now is what was there before, and the English pack
  have hnames : ∀ file,
      file ∈ w.disk.listing (Table.put entries englishFile (.file englishBytes)) ↔
        file = englishFile ∨ file ∈ Table.names entries := by
    intro file
    rw [Disk.mem_listing, Table.names_put]
    split
    · rename_i hmem
      exact ⟨.inr, fun h => h.elim (· ▸ hmem) id⟩
    · simp [or_comm]
  refine hasEnglish_of_get? (get?_english b ((hnames _).2 (.inl rfl)) hpack ?_)
  intro file hfile hne
  have hold : file ∈ Table.names entries := ((hnames file).1 hfile).resolve_left hne
  unfold packFor?
  split
  · -- the file is the same as before, and held no pack then
    rename_i hcode
    have hsame : Table.get? (Table.put entries englishFile (.file englishBytes)) file =
        Table.get? entries file := by rw [Table.get?_put, if_neg (Ne.symm hne)]
    rw [readPack?_congr hfolder (get?_of_find hfind) (slash_not_mem_of_codeOf hcode.2)
      (isName_of_isPackFile hcode.1) hsame]
    cases hpack : readPack? w.nesting w.disk file with
    | none => rfl
    | some pack => exact absurd (holdsPack_iff.2 ⟨hcode.1, pack, hpack⟩) (hnone file hold)
  · rfl

/-! ## The recursion -/

/-- One call of the recursion, up to the point at which it calls itself: it is over if there are
    packs, and else the English one is written. -/
def loadOnce : Play (Option Unit) := do
  readFolder
  if (← get).phrasebook.packs.isEmpty then
    writeEnglish
    return none
  else return some ()

/-- `Reloads w calls wrote out`: loading the packs as a recursion, from `w` to `out`. `calls` counts
    how often it calls itself, and `wrote` tells whether the English pack was written on the way:
    into a new folder, or because there was no other pack. -/
inductive Reloads : World → (calls : Nat) → (wrote : Bool) → Except Fault Unit × World → Prop where
  | done {w v : World} (h : loadOnce.exec w = (.ok (some ()), v)) :
      Reloads w 0 (!w.disk.has folder) (.ok (), v)
  | fault {w v : World} {f : Fault} (h : loadOnce.exec w = (.error f, v)) :
      Reloads w 0 (!w.disk.has folder) (.error f, v)
  | again {w v : World} {calls : Nat} {wrote : Bool} {out : Except Fault Unit × World}
      (h : loadOnce.exec w = (.ok none, v)) (rest : Reloads v calls wrote out) :
      Reloads w (calls + 1) true out

/-- A recursion `Reloads` in only one way. -/
theorem Reloads.unique {w : World} {calls calls' : Nat} {wrote wrote' : Bool}
    {out out' : Except Fault Unit × World} (h : Reloads w calls wrote out)
    (h' : Reloads w calls' wrote' out') : calls = calls' ∧ wrote = wrote' ∧ out = out' := by
  -- the outcome of a call decides which of the three ways it goes
  induction h generalizing calls' wrote' out' with
  | done h =>
    cases h' with
    | done h' => cases h.symm.trans h'; exact ⟨rfl, rfl, rfl⟩
    | fault h' => cases h.symm.trans h'
    | again h' => cases h.symm.trans h'
  | fault h =>
    cases h' with
    | done h' => cases h.symm.trans h'
    | fault h' => cases h.symm.trans h'; exact ⟨rfl, rfl, rfl⟩
    | again h' => cases h.symm.trans h'
  | again h _ ih =>
    cases h' with
    | done h' => cases h.symm.trans h'
    | fault h' => cases h.symm.trans h'
    | again h' rest' =>
      cases h.symm.trans h'
      obtain ⟨rfl, -, rfl⟩ := ih rest'
      exact ⟨rfl, rfl, rfl⟩

section

variable {w v : World}

/-- `loadOnce` is over if `readFolder` finds packs. -/
private theorem exec_loadOnce_of_packs (h : readFolder.exec w = (.ok (), v))
    (hpacks : v.phrasebook.packs ≠ []) : loadOnce.exec w = (.ok (some ()), v) := by
  have hsome : v.phrasebook.packs.isEmpty = false := by simpa using hpacks
  simp only [loadOnce, exec_bind, h, exec_get, hsome, Bool.false_eq_true, if_false]
  rfl

/-- `loadOnce` writes the English pack if `readFolder` finds none. -/
private theorem exec_loadOnce_of_empty (h : readFolder.exec w = (.ok (), v))
    (hpacks : v.phrasebook.packs = []) :
    loadOnce.exec w = (do writeEnglish; return none : Play (Option Unit)).exec v := by
  have hsome : v.phrasebook.packs.isEmpty = true := by simpa using hpacks
  simp only [loadOnce, exec_bind, h, exec_get, hsome, if_true]

/-- A call of `loadOnce` that finds no pack in the folder writes the English one, unless there is a
    folder in its place. -/
private theorem exec_loadOnce_of_folder {entries : Table String Node}
    (hfind : w.disk.find folder = .ok (.folder entries))
    (hnone : ∀ file ∈ Table.names entries, ¬ HoldsPack w.nesting w.disk file) :
    loadOnce.exec w =
      match Table.get? entries englishFile with
      | some (.folder _) =>
        (.error (.disk .isFolder (folder ++ "/en.json")), loaded w (w.disk.listing entries))
      | _ =>
        (.ok none,
          { loaded w (w.disk.listing entries) with disk := withEnglishIn w.disk entries }) := by
  have hpacks : (loaded w (w.disk.listing entries)).phrasebook.packs = [] :=
    packs_addFiles_eq_nil.2 ⟨rfl, fun file hmem => hnone file (Disk.mem_listing.1 hmem)⟩
  have hfolder : Table.get? (loaded w (w.disk.listing entries)).disk.entries folder =
      some (.folder entries) := get?_of_find hfind
  rw [exec_loadOnce_of_empty (exec_readFolder_of_folder hfind) hpacks, exec_bind,
    exec_writeEnglish hfolder]
  -- `en.json` can be written unless a folder stands in its place
  rcases Table.get? entries englishFile with _ | (_ | _) <;> rfl

end

section

variable {w : World} {out : Except Fault Unit × World}

/-- `load` is the recursion `Reloads`. It calls itself at most once. If it has written the English
    pack then this pack is loaded, and else the disk is as it was. -/
theorem Loads.reloads (h : Loads w out) :
    ∃ calls wrote, Reloads w calls wrote out ∧ calls ≤ 1 ∧
      (wrote = true → out.1 = .ok () ∧ HasEnglish out.2.phrasebook) ∧
      (wrote = false → out.2.disk = w.disk) := by
  have hthere {node : Node} (hfind : w.disk.find folder = .ok node) :
      (!w.disk.has folder) ≠ true := by simp [Disk.has, hfind]
  cases h with
  | file hfind =>
    exact ⟨0, _, .fault (exec_bind_of_error (exec_readFolder_of_file hfind)), by omega,
      fun hwrote => absurd hwrote (hthere hfind), fun _ => rfl⟩
  | made hfind =>
    -- the English pack was written with the folder, and one call is enough
    have honce := exec_loadOnce_of_packs (exec_readFolder_of_missing hfind)
      (hasEnglish_withEnglish w).packs_ne_nil
    have hmissing : (!w.disk.has folder) ≠ false := by simp [Disk.has, hfind]
    exact ⟨0, _, .done honce, by omega, fun _ => ⟨rfl, hasEnglish_withEnglish w⟩,
      fun hwrote => absurd hwrote hmissing⟩
  | found hfind hmem hpack =>
    have honce := exec_loadOnce_of_packs (exec_readFolder_of_folder hfind)
      (packs_loaded_ne_nil (Disk.mem_listing.2 hmem) hpack)
    exact ⟨0, _, .done honce, by omega, fun hwrote => absurd hwrote (hthere hfind), fun _ => rfl⟩
  | @blocked entries inner hfind hnone hplace =>
    have honce := exec_loadOnce_of_folder hfind hnone
    -- a folder is in the place of the English pack, so the only call fails
    rw [find_english (get?_of_find hfind)] at hplace
    -- (_ | inner) | there is nothing in its place, or a file that is overwritten
    rcases hnode : Table.get? entries englishFile with _ | (_ | _) <;> rw [hnode] at honce hplace
    · cases hplace
    · cases hplace
    · exact ⟨0, _, .fault honce, by omega, fun hwrote => absurd hwrote (hthere hfind), fun _ => rfl⟩
  | @written entries hfind hnone hplace =>
    -- the second call finds what the first one has written
    have hfind' : (withEnglishIn w.disk entries).find folder =
        .ok (.folder (Table.put entries englishFile (.file englishBytes))) := by
      rw [find_folder, get?_withEnglishIn]
    have hread := exec_readFolder_of_folder
      (w := { loaded w (w.disk.listing entries) with disk := withEnglishIn w.disk entries }) hfind'
    have henglish :=
      hasEnglish_withEnglishIn (loaded w (w.disk.listing entries)).phrasebook hfind hnone
    have hrest := Reloads.done (exec_loadOnce_of_packs hread henglish.packs_ne_nil)
    have honce := exec_loadOnce_of_folder hfind hnone
    rw [find_english (get?_of_find hfind)] at hplace
    rcases hnode : Table.get? entries englishFile with _ | (_ | inner) <;>
      rw [hnode] at honce hplace
    · exact ⟨1, _, .again honce hrest, by omega, fun _ => ⟨rfl, henglish⟩,
        fun hwrote => Bool.noConfusion hwrote⟩
    · exact ⟨1, _, .again honce hrest, by omega, fun _ => ⟨rfl, henglish⟩,
        fun hwrote => Bool.noConfusion hwrote⟩
    · exact absurd rfl (hplace inner)

/-- There is no pack in the folder, and a folder in the place of the English one. -/
def IsBlocked (levels : Nat) (d : Disk) : Prop :=
  ∃ entries, d.find folder = .ok (.folder entries) ∧
    (∀ file ∈ Table.names entries, ¬ HoldsPack levels d file) ∧
    ∃ inner, d.find (folder ++ "/" ++ englishFile) = .ok (.folder inner)

/-- A loading as in `Loads` fails for one of two reasons, or there are packs. -/
private theorem Loads.cases_fault (h : Loads w out) :
    (out.1 = .error (.disk .notFolder folder) ∧
      ∃ content, w.disk.find folder = .ok (.file content)) ∨
    (out.1 = .error (.disk .isFolder (folder ++ "/en.json")) ∧ IsBlocked w.nesting w.disk) ∨
    (out.1 = .ok () ∧ out.2.phrasebook.packs ≠ [] ∧ ¬ NoPacks w.nesting w.disk) := by
  have hready (hok : out.1 = .ok ()) : ¬ NoPacks w.nesting w.disk := by
    intro hno
    obtain ⟨f, hf⟩ := h.fault_iff.2 hno
    rw [hok] at hf
    cases hf
  cases h with
  | file hfind => exact .inl ⟨rfl, _, hfind⟩
  | blocked hfind hnone hplace => exact .inr (.inl ⟨rfl, _, hfind, hnone, _, hplace⟩)
  | made hfind => exact .inr (.inr ⟨rfl, packs_withEnglish_ne_nil w, hready rfl⟩)
  | found hfind hmem hpack =>
    exact .inr (.inr ⟨rfl, packs_loaded_ne_nil (Disk.mem_listing.2 hmem) hpack, hready rfl⟩)
  -- the English pack is read back from where it was written
  | @written entries hfind hnone hplace =>
    have henglish :=
      hasEnglish_withEnglishIn (loaded w (w.disk.listing entries)).phrasebook hfind hnone
    exact .inr (.inr ⟨rfl, henglish.packs_ne_nil, hready rfl⟩)

end

/-- Loading the packs always ends, and with packs unless it fails. It is a recursion that calls
    itself at most once. It fails with a file in the place of the folder, or with a folder in the
    place of the English pack when there is no pack, and in no other way. If it has written the
    English pack, it gives this pack, with the same phrases in the same order and under its name,
    and if it has not, the disk is as it was. -/
theorem load_ends_with_packs (w : World) :
    (∃ calls wrote, Reloads w calls wrote (load.exec w)) ∧
    (∀ calls wrote out, Reloads w calls wrote out → out = load.exec w ∧ calls ≤ 1 ∧
      (wrote = true → out.1 = .ok () ∧ HasEnglish out.2.phrasebook) ∧
      (wrote = false → out.2.disk = w.disk)) ∧
    ((load.exec w).1 = .error (.disk .notFolder folder) ↔
      ∃ content, w.disk.find folder = .ok (.file content)) ∧
    ((load.exec w).1 = .error (.disk .isFolder (folder ++ "/en.json")) ↔
      IsBlocked w.nesting w.disk) ∧
    ((∃ f, (load.exec w).1 = .error f ∧
        (f = .disk .notFolder folder ∨ f = .disk .isFolder (folder ++ "/en.json"))) ∨
      (load.exec w).1 = .ok () ∧ (load.exec w).2.phrasebook.languages ≠ []) := by
  have hloads := loads_exec_load w
  -- the recursion has only one way to go, so what is true of this one is true of all
  obtain ⟨calls, wrote, hreloads, hcalls, hwrote, hdisk⟩ := hloads.reloads
  refine ⟨⟨calls, wrote, hreloads⟩, ?_, ?_⟩
  · intro calls' wrote' out hout
    obtain ⟨rfl, rfl, rfl⟩ := hreloads.unique hout
    exact ⟨rfl, hcalls, hwrote, hdisk⟩
  · rcases hloads.cases_fault with ⟨hfault, content, hfind⟩ | ⟨hfault, hblocked⟩ |
      ⟨hok, hpacks, hready⟩
    · -- a file in the place of the folder
      refine ⟨iff_of_true hfault ⟨content, hfind⟩, iff_of_false ?_ ?_, .inl ⟨_, hfault, .inl rfl⟩⟩
      · rw [hfault]
        intro h
        cases h
      · rintro ⟨entries, hfolder, -⟩
        rw [hfind] at hfolder
        cases hfolder
    · -- a folder in the place of the English pack
      refine ⟨iff_of_false ?_ ?_, iff_of_true hfault hblocked, .inl ⟨_, hfault, .inr rfl⟩⟩
      · rw [hfault]
        intro h
        cases h
      · rintro ⟨content, hfile⟩
        obtain ⟨entries, hfolder, -⟩ := hblocked
        rw [hfile] at hfolder
        cases hfolder
    · -- no fault, and then there are packs
      have hno (f : Fault) : (load.exec w).1 ≠ .error f := by
        rw [hok]
        intro h
        cases h
      refine ⟨iff_of_false (hno _) fun h => hready (.inl h),
        iff_of_false (hno _) fun h => hready (.inr h), .inr ⟨hok, ?_⟩⟩
      rwa [ne_eq, languages, List.map_eq_nil_iff]

/-! ## Loading once more -/

/-- The world `w` with other packs. -/
def withPacks (w : World) (packs : Table Wording (Table Wording Json)) : World :=
  { w with phrasebook := { w.phrasebook with packs } }

/-- `load` begins with no packs, so those that are there before do not matter. -/
private theorem exec_load_withPacks (w : World) (packs : Table Wording (Table Wording Json)) :
    load.exec (withPacks w packs) = load.exec w := by
  have hread : readFolder.exec (withPacks w packs) = readFolder.exec w := by
    simp only [readFolder, exec_bind, exec_modify, withPacks]
  simp only [load, exec_bind, hread]

/-- A world that is `loaded` differs in its packs alone. -/
private theorem loaded_eq_withPacks (w : World) (files : List String) :
    loaded w files = withPacks w (loaded w files).phrasebook.packs := by
  obtain ⟨packs, hpacks⟩ :=
    exists_addFiles_eq w.nesting w.disk files { w.phrasebook with packs := [] }
  rw [withPacks, loaded, hpacks]

/-- Where the English pack was written, `load` finds it. -/
private theorem exec_load_of_english {w : World} {entries : Table String Node}
    (hfolder : Table.get? w.disk.entries folder = some (.folder entries))
    (hfile : Table.get? entries englishFile = some (.file englishBytes)) :
    load.exec w = (.ok (), loaded w (w.disk.listing entries)) := by
  have hfind : w.disk.find folder = .ok (.folder entries) := by rw [find_folder, hfolder]
  have hmem : englishFile ∈ w.disk.listing entries := by
    rw [Disk.mem_listing, Table.mem_names_iff, hfile, Option.isSome_some]
  exact exec_load_of_packs (exec_readFolder_of_folder hfind)
    (packs_loaded_ne_nil hmem (holdsPack_english _ hfolder hfile))

/-- What `load` leaves behind is loaded in the same way again. -/
theorem Loads.again {w : World} {out : Except Fault Unit × World} (h : Loads w out)
    (hout : load.exec w = out) : load.exec out.2 = out := by
  -- if the disk is as it was, only the packs can be others
  have hsame {packs : Table Wording (Table Wording Json)} (hworld : out.2 = withPacks w packs) :
      load.exec out.2 = out := by
    rw [hworld, exec_load_withPacks, hout]
  cases h with
  | file => exact hsame rfl
  | found => exact hsame (loaded_eq_withPacks w _)
  | blocked => exact hsame (loaded_eq_withPacks w _)
  | made =>
    -- the folder is there now, so it is read and not made
    have hagain := exec_load_of_english (w := { w with disk := withEnglish w.disk })
      (get?_withEnglish _) rfl
    rw [Disk.listing_singleton] at hagain
    rw [loaded_eq_withPacks, exec_load_withPacks, ← loaded_eq_withPacks, hagain]
  | @written entries =>
    -- the pack is there now, so it is found at the first reading
    have hagain := exec_load_of_english
      (w := { loaded w (w.disk.listing entries) with disk := withEnglishIn w.disk entries })
      (get?_withEnglishIn _ _) (Table.get?_put_self _ _ _)
    rw [loaded_eq_withPacks, exec_load_withPacks, ← loaded_eq_withPacks, hagain]
    rfl

/-- Loading the packs twice is loading them once: the second time it ends in the same way, finds the
    same packs in the same order and leaves the disk alone. The packs that are there before do not
    matter. -/
theorem load_twice (w : World) :
    load.exec (load.exec w).2 = load.exec w ∧
    ∀ packs, load.exec (withPacks w packs) = load.exec w :=
  ⟨(loads_exec_load w).again rfl, exec_load_withPacks w⟩

end Gamebook.Phrasebook

import Gamebook.Proofs.Packs

/-!
# Files that stay as they are

Loading the packs may write a file, the English pack. It is written into a new folder, or into one
in which no pack was found. In the second case there may be a file of its name already: one that
holds no pack, because it is no text or no object of JSON. The English pack then takes its place,
and what was in the file is lost. No other file is ever changed.

A file is named by the folders on the way to it, from the working folder on, and by its own name.

## Key results

- `Node.HoldsFile.put`: what is put into a folder leaves the files of other names alone
- `Loads.holdsFile`, `Loads.holdsFile_spoiled`: what becomes of a file when the packs are loaded
- `load_keeps_files_iff`: when loading keeps all files
-/

namespace Gamebook

/-! ## Files in a tree -/

namespace Disk

/-- A path of names never goes up, so the folders `above` a node do not matter to a `walk`. -/
private theorem walk_above {path : List String} (hpath : ∀ part ∈ path, IsName part) (node : Node)
    (above above' : List Node) : walk path node above = walk path node above' := by
  induction path generalizing node above above' with
  | nil => simp only [walk]
  | cons name path ih =>
    cases node with
    | file content => simp only [walk]
    | folder entries =>
      -- the folders above are looked at only to go up, and a name goes down
      obtain ⟨hname, hrest⟩ := List.forall_mem_cons.1 hpath
      rw [walk_name hname, walk_name hname]
      cases Table.get? entries name with
      | none => rfl
      | some next => exact ih hrest next _ _

end Disk

namespace Node

/-- `HoldsFile node path content`: a file with these bytes is below a node, at a path of names. -/
def HoldsFile (node : Node) (path : List String) (content : List UInt8) : Prop :=
  (∀ part ∈ path, Disk.IsName part) ∧ Disk.walk path node [] = .ok (.file content)

variable {entries : Table String Node} {name : String} {path : List String}
  {content content' : List UInt8} {new : Node}

@[simp] theorem holdsFile_nil {node : Node} :
    node.HoldsFile [] content ↔ node = .file content := by
  simp [HoldsFile, Disk.walk]

@[simp] theorem not_holdsFile_file : ¬ (Node.file content').HoldsFile (name :: path) content := by
  rintro ⟨-, h⟩
  rw [Disk.walk] at h
  cases h

/-- The files below a folder are those of its entries. -/
private theorem holdsFile_cons :
    (Node.folder entries).HoldsFile (name :: path) content ↔
      Disk.IsName name ∧ ∃ node, Table.get? entries name = some node ∧
        node.HoldsFile path content := by
  simp only [HoldsFile, List.forall_mem_cons]
  -- from the entry on, nothing that is above counts
  constructor
  · rintro ⟨⟨hname, hpath⟩, h⟩
    rw [Disk.walk_name hname] at h
    cases hget : Table.get? entries name with
    | none =>
      rw [hget] at h
      cases h
    | some node =>
      rw [hget] at h
      exact ⟨hname, node, rfl, hpath, (Disk.walk_above hpath node _ _).trans h⟩
  · rintro ⟨hname, node, hget, hpath, h⟩
    rw [Disk.walk_name hname, hget]
    exact ⟨⟨hname, hpath⟩, (Disk.walk_above hpath node _ _).trans h⟩

/-- There is only one file at a path. -/
theorem HoldsFile.unique {node : Node} (h : node.HoldsFile path content)
    (h' : node.HoldsFile path content') : content = content' := by
  have hsame := h.2.symm.trans h'.2
  cases hsame
  rfl

/-- What is `put` into a folder leaves the files of other names alone, and those of its own name if
    it has them too. -/
theorem HoldsFile.put (h : (Node.folder entries).HoldsFile path content)
    (hnew : ∀ rest, path = name :: rest → new.HoldsFile rest content) :
    (Node.folder (Table.put entries name new)).HoldsFile path content := by
  cases path with
  | nil => simp at h
  | cons part rest =>
    obtain ⟨hpart, node, hget, hnode⟩ := holdsFile_cons.1 h
    refine holdsFile_cons.2 ⟨hpart, ?_⟩
    rw [Table.get?_put]
    -- the path goes through the new entry, or through another one
    by_cases hsame : name = part
    · rw [if_pos hsame]
      exact ⟨new, rfl, hnew rest (by rw [hsame])⟩
    · rw [if_neg hsame]
      exact ⟨node, hget, hnode⟩

end Node

namespace Disk

/-- A file with these bytes is in the working folder or below it, at a path of names. -/
def HoldsFile (d : Disk) (path : List String) (content : List UInt8) : Prop :=
  d.here.HoldsFile path content

end Disk

/-! ## Loading the packs -/

namespace Phrasebook

open Play

/-- The path of the English pack. -/
def englishPath : List String := [folder, englishFile]

/-- There is a file in the place of the English pack, and neither it nor any other one in the folder
    `HoldsPack`. -/
def EnglishSpoiled (levels : Nat) (d : Disk) : Prop :=
  ∃ entries content, d.find folder = .ok (.folder entries) ∧
    (∀ file ∈ Table.names entries, ¬ HoldsPack levels d file) ∧ d.HoldsFile englishPath content

section

variable {d : Disk} {entries : Table String Node} {path : List String} {content : List UInt8}

/-- What is in the place of the English pack is an entry of the folder of the packs. -/
private theorem holdsFile_englishPath (h : Table.get? d.entries folder = some (.folder entries)) :
    d.HoldsFile englishPath content ↔ Table.get? entries englishFile = some (.file content) := by
  have hfolder : Disk.IsName folder := by decide
  have hfile : Disk.IsName englishFile := by decide
  simp only [Disk.HoldsFile, Disk.here, englishPath, Node.holdsFile_cons, Node.holdsFile_nil,
    hfolder, hfile, h, true_and, Option.some.injEq, exists_eq_left', exists_eq_right]

/-- A new folder is in nobody's way. -/
private theorem holdsFile_withEnglish (hnone : Table.get? d.entries folder = none)
    (h : d.HoldsFile path content) : (withEnglish d).HoldsFile path content := by
  refine Node.HoldsFile.put h fun rest hpath => ?_
  rw [Disk.HoldsFile, Disk.here, hpath, Node.holdsFile_cons, hnone] at h
  obtain ⟨-, node, hget, -⟩ := h
  cases hget

/-- The English pack takes no place but its own. -/
private theorem holdsFile_withEnglishIn
    (hentries : Table.get? d.entries folder = some (.folder entries))
    (hplace : ∀ inner, Table.get? entries englishFile ≠ some (.folder inner))
    (h : d.HoldsFile path content) (hpath : path ≠ englishPath) :
    (withEnglishIn d entries).HoldsFile path content := by
  -- the path goes through the folder of the packs, or the file is elsewhere
  refine Node.HoldsFile.put h fun rest hrest => ?_
  subst hrest
  obtain ⟨-, node, hget, hnode⟩ := Node.holdsFile_cons.1 h
  obtain rfl : .folder entries = node := Option.some.inj (hentries.symm.trans hget)
  refine Node.HoldsFile.put hnode fun below hbelow => ?_
  subst hbelow
  -- what has the name of the English pack is a file, and there is nothing below it
  obtain ⟨-, inner, hinner, hheld⟩ := Node.holdsFile_cons.1 hnode
  cases inner with
  | folder inner => exact absurd hinner (hplace inner)
  | file old =>
    cases below with
    | nil => exact absurd rfl hpath
    | cons part below => exact absurd hheld Node.not_holdsFile_file

end

section

variable {w : World} {out : Except Fault Unit × World} {path : List String} {content : List UInt8}

private theorem get?_ne_folder {d : Disk} {entries : Table String Node}
    (hfind : d.find folder = .ok (.folder entries))
    (hplace : ∀ inner, d.find (folder ++ "/" ++ englishFile) ≠ .ok (.folder inner)) :
    ∀ inner, Table.get? entries englishFile ≠ some (.folder inner) := by
  intro inner hinner
  refine hplace inner ?_
  rw [find_english (get?_of_find hfind), hinner]

/-- Loading keeps every file but that of the English pack, and that one too unless it is
    `EnglishSpoiled`. -/
theorem Loads.holdsFile (h : Loads w out) (hfile : w.disk.HoldsFile path content)
    (hkept : path ≠ englishPath ∨ ¬ EnglishSpoiled w.nesting w.disk) :
    out.2.disk.HoldsFile path content := by
  cases h with
  | file => exact hfile
  | found => exact hfile
  | blocked => exact hfile
  | made hfind => exact holdsFile_withEnglish (get?_of_find_error hfind) hfile
  | written hfind hnone hplace =>
    -- the English pack was written, so a file in its place was spoiled
    have hpath : path ≠ englishPath := hkept.elim id fun hgood hpath =>
      hgood ⟨_, _, hfind, hnone, hpath ▸ hfile⟩
    exact holdsFile_withEnglishIn (get?_of_find hfind) (get?_ne_folder hfind hplace) hfile hpath

/-- Loading leaves everything outside the working folder alone. -/
theorem Loads.around (h : Loads w out) : out.2.disk.around = w.disk.around := by
  cases h <;> rfl

/-- A spoiled file is replaced by the English pack. -/
theorem Loads.holdsFile_spoiled (h : Loads w out) (hspoiled : EnglishSpoiled w.nesting w.disk) :
    out.2.disk.HoldsFile englishPath englishBytes := by
  obtain ⟨entries, content, hfind, hnone, hfile⟩ := hspoiled
  -- only the last way of loading fits with a spoiled file
  cases h with
  | file hfind' =>
    rw [hfind] at hfind'
    cases hfind'
  | made hfind' =>
    rw [hfind] at hfind'
    cases hfind'
  | found hfind' hmem hpack =>
    rw [hfind] at hfind'
    cases hfind'
    exact absurd hpack (hnone _ hmem)
  | blocked hfind' _ hplace =>
    have hget := (holdsFile_englishPath (get?_of_find hfind)).1 hfile
    rw [find_english (get?_of_find hfind), hget] at hplace
    cases hplace
  | written hfind' =>
    rw [hfind] at hfind'
    cases hfind'
    exact (holdsFile_englishPath (get?_withEnglishIn _ _)).2 (Table.get?_put_self _ _ _)

/-- The bytes of a spoiled file are not those of the English pack, which would hold a pack. -/
private theorem EnglishSpoiled.ne_englishBytes {levels : Nat} {d : Disk}
    (h : EnglishSpoiled levels d)
    (hfile : d.HoldsFile englishPath content) : content ≠ englishBytes := by
  intro hsame
  rw [hsame] at hfile
  obtain ⟨entries, _, hfind, hnone, -⟩ := h
  have hget := (holdsFile_englishPath (get?_of_find hfind)).1 hfile
  refine hnone englishFile ?_ (holdsPack_english levels (get?_of_find hfind) hget)
  rw [Table.mem_names_iff, hget, Option.isSome_some]

end

/-- Loading the packs, whether it fails or not, changes nothing outside the working folder, and
    keeps every file in it but perhaps that of the English pack. It keeps all files exactly unless
    that one is spoiled, and then the English pack takes its place. -/
theorem load_keeps_files_iff (w : World) :
    (load.exec w).2.disk.around = w.disk.around ∧
    (∀ path content, w.disk.HoldsFile path content → path ≠ englishPath →
      (load.exec w).2.disk.HoldsFile path content) ∧
    ((∀ path content, w.disk.HoldsFile path content →
        (load.exec w).2.disk.HoldsFile path content) ↔ ¬ EnglishSpoiled w.nesting w.disk) ∧
    (EnglishSpoiled w.nesting w.disk →
      (load.exec w).2.disk.HoldsFile englishPath englishBytes) := by
  have hloads := loads_exec_load w
  refine ⟨hloads.around, fun path content hfile hpath => hloads.holdsFile hfile (.inl hpath),
    ⟨?_, ?_⟩, hloads.holdsFile_spoiled⟩
  · -- the bytes of a spoiled file would have to be those of the English pack
    rintro hkeeps hspoiled
    obtain ⟨_, content, -, -, hfile⟩ := id hspoiled
    have hsame := (hkeeps _ _ hfile).unique (hloads.holdsFile_spoiled hspoiled)
    exact hspoiled.ne_englishBytes hfile hsame
  · exact fun hgood path content hfile => hloads.holdsFile hfile (.inr hgood)

/-- A pack that someone has written, with a comma too many. -/
def ownPack : List UInt8 := Text.Utf8.encode "\x7b\"language_name\": \"Mine\",\x7d".toList

/-- A world in which this is the only pack. -/
def ownWorld : World :=
  { disk := { entries := [("langs", .folder [("en.json", .file ownPack)])] } }

/-- The pack is lost when the packs are loaded. -/
theorem ownPack_lost : ownWorld.disk.HoldsFile ["langs", "en.json"] ownPack ∧
    ¬ (load.exec ownWorld).2.disk.HoldsFile ["langs", "en.json"] ownPack := by
  have hfind : ownWorld.disk.find folder = .ok (.folder [("en.json", .file ownPack)]) := by
    rw [find_folder]
    rfl
  have hfile : ownWorld.disk.HoldsFile englishPath ownPack :=
    (holdsFile_englishPath (get?_of_find hfind)).2 rfl
  -- the comma too many keeps the file from being read
  have hnone : ∀ file ∈ Table.names [("en.json", Node.file ownPack)],
      ¬ HoldsPack ownWorld.nesting ownWorld.disk file := by
    intro file hmem hpack
    obtain rfl : file = "en.json" := List.mem_singleton.1 hmem
    obtain ⟨-, pack, hread⟩ := holdsPack_iff.1 hpack
    have hunread : (readPack? ownWorld.nesting ownWorld.disk "en.json").isNone = true := by
      decide +kernel
    rw [hread] at hunread
    cases hunread
  have hspoiled : EnglishSpoiled ownWorld.nesting ownWorld.disk := ⟨_, _, hfind, hnone, hfile⟩
  refine ⟨hfile, fun hkept => ?_⟩
  have hsame := hkept.unique ((loads_exec_load ownWorld).holdsFile_spoiled hspoiled)
  exact hspoiled.ne_englishBytes hfile hsame

end Phrasebook

end Gamebook

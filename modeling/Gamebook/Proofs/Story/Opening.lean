import Gamebook.Proofs.Disk
import Gamebook.Proofs.Exec
import Gamebook.Proofs.Text.Utf8
import Gamebook.Story

/-!
# Opening a story

A story is opened if its name is that of a story and a file of text is in its place. Opening it
gives the lines of this text and changes nothing.

## Key results

- `exec_openStory`, `exec_openStory_of_written`: opening a story that is there
- `find_story`: what is in the place of a story
-/

namespace Gamebook.Story

open Play

/-- `find` at the folder of the stories is a look-up in the working folder. -/
theorem find_folder (d : Disk) :
    d.find folder =
      match Table.get? d.entries folder with
      | none => .error .missing
      | some node => .ok node :=
  d.find_name (by decide) (by decide) (by decide)

/-- A name without a slash does not have the mark. -/
theorem isPrefixOf?_mark_of_slash {name : String} (hslash : '/' ∉ name.toList) :
    "sys://".toList.isPrefixOf? name.toList = none := by
  rw [Option.eq_none_iff_forall_ne_some]
  intro rest hrest
  rw [← List.append_eq_of_isPrefixOf?_eq_some hrest] at hslash
  exact hslash (List.mem_append_left rest (by decide))

/-- `openStory` opens a story that is there, and nothing else changes. -/
theorem exec_openStory {name : String} {w : World} {content : List UInt8} {cs : List Char}
    (hname : isStoryName name = true) (hmark : "sys://".toList.isPrefixOf? name.toList = none)
    (hfolder : w.disk.has folder = true) (hread : w.disk.read (pathOf name) = .ok content)
    (hdecode : Text.Utf8.decode content = .ok cs) :
    ∃ notes, (openStory name).exec w =
      (.ok (some (notes, lines (Text.unifyLineEnds cs))), w) := by
  have hfile : w.disk.has (pathOf name) = true := by
    rw [Disk.read] at hread
    rw [Disk.has]
    cases hfind : w.disk.find (pathOf name) with
    | ok node => rfl
    | error e =>
      rw [hfind] at hread
      cases hread
  have hraw : (readRaw (pathOf name)).exec w = (.ok cs, w) := by
    simp only [readRaw, exec_bind, exec_get, hread, hdecode, exec_pure]
  refine ⟨firstNotes name (pathOf name) cs (Text.unifyLineEnds cs)
    (lines (Text.unifyLineEnds cs)), ?_⟩
  simp only [openStory, hname, Bool.not_true, Bool.false_eq_true, if_false, withoutMark, hmark,
    exec_bind, exec_pure, exec_ensureFolder, hfolder, if_true, exec_get, hfile, exec_traced, hraw]

/-- `openStory` opens a story that is in the folder of the stories, as a text of its own. -/
theorem exec_openStory_of_written {name : String} {w : World} {stories : Table String Node}
    {cs : List Char} (hname : isStoryName name = true)
    (hmark : "sys://".toList.isPrefixOf? name.toList = none)
    (hpath : Disk.isPath (pathOf name) = true ∧ Disk.parts (pathOf name) = [folder, name])
    (hplain : Disk.IsName name)
    (hfolder : Table.get? w.disk.entries folder = some (.folder stories))
    (hfile : Table.get? stories name = some (.file (Text.Utf8.encode cs))) :
    ∃ notes, (openStory name).exec w =
      (.ok (some (notes, lines (Text.unifyLineEnds cs))), w) := by
  have hhas : w.disk.has folder = true := by rw [Disk.has, find_folder, hfolder]
  have hread : w.disk.read (pathOf name) = .ok (Text.Utf8.encode cs) := by
    rw [Disk.read, w.disk.find_inner hpath.1 hpath.2 (by decide) hplain, hfolder]
    simp only [hfile]
  exact exec_openStory hname hmark hhas hread (Text.Utf8.decode_encode cs)

/-- What is in the place of the story `f.txr`. -/
theorem find_story (d : Disk) :
    d.find "games/f.txr" =
      match Table.get? d.entries folder with
      | none => .error .missing
      | some (.file _) => .error .notFolder
      | some (.folder stories) =>
        match Table.get? stories "f.txr" with
        | none => .error .missing
        | some node => .ok node :=
  d.find_inner (by decide) (by decide) (by decide) (by decide)

/-- A story is there only if the folder of the stories is. -/
theorem has_folder_of_read {d : Disk} {content : List UInt8}
    (h : d.read "games/f.txr" = .ok content) : d.has folder = true :=
  Disk.has_of_read (by decide) (by decide) (by decide)
    (by decide : Disk.parts "games/f.txr" = [folder, "f.txr"]) h

end Gamebook.Story

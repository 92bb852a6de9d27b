import Gamebook.Proofs.OffDisk
import Gamebook.Proofs.Story.Machine
import Gamebook.Proofs.Story.Opening
import Gamebook.Proofs.Text.Blank
import Gamebook.Proofs.Text.Lines
import Mathlib.Logic.Relation

/-!
# The layout of a story

How a story is laid out does not matter: blank lines and notes between its lines, blanks around
them, and the way in which they end. A `Manuscript` is a text with the line ends that it was written
with, of three kinds. An `Edit` puts a line that is left out into it, or blanks around one of its
lines, and two manuscripts have the same layout if edits, made or taken back, lead from one to the
other. Then they have the same lines to carry out, and a story is played in the same way from both.

A line end may run into what follows: a single `\r` before an empty line that ends with `\n` is one
line end and not two. The line that gets lost is empty, and is left out anyway.

## Key results

- `Edit.kept_eq`, `SameLayout.kept_eq`: what edits do not change
- `Manuscript.lines_text`: the lines of a manuscript that are carried out
- `Manuscript.exists_text_eq`: every text is one of a manuscript
- `exec_play_notes`: what is noted of a story does not change how it is played
- `layout_does_not_matter`: stories with the same layout are played in the same way
-/

namespace Gamebook.Story

open Play

/-! ## Lines that are left out -/

/-- A line that is left out: it is blank, or its first character that is no blank is a `#`. -/
def IsIdle (line : Line) : Prop :=
  Text.AllBlank line ∨ line.find? (fun c => !Text.isBlank c) = some '#'

/-- The lines that are carried out, among the lines of a text. -/
def kept (lines : List Line) : List Line :=
  (lines.map Text.trim).filter fun line => !line.isEmpty && line.head? != some '#'

/-- `kept` goes line by line. -/
private theorem kept_append (before after : List Line) :
    kept (before ++ after) = kept before ++ kept after := by
  rw [kept, List.map_append, List.filter_append, kept, kept]

private theorem kept_cons (line : Line) (rest : List Line) :
    kept (line :: rest) = kept [line] ++ kept rest := kept_append [line] rest

/-- No line that `IsIdle` is `kept`. -/
private theorem kept_of_isIdle {line : Line} (h : IsIdle line) : kept [line] = [] := by
  rcases h with hblank | hnote
  · have htrim : Text.trim line = [] := by
      rw [Text.trim, Text.trimStart_of_allBlank hblank]
      rfl
    rw [kept, List.map_cons, htrim]
    rfl
  · -- the note starts behind blanks, which are trimmed away
    obtain ⟨-, left, rest, rfl, hleft⟩ := List.find?_eq_some_iff_append.1 hnote
    have hblank : Text.AllBlank left := fun c hc => by simpa using hleft c hc
    have htrim := Text.trim_padded hblank (List.forall_mem_nil _) ('#' :: rest)
    rw [List.append_nil] at htrim
    have hhead : (Text.trim ('#' :: rest)).head? = some '#' := Text.head?_trim (by decide) rest
    rw [kept, List.map_cons, htrim, List.map_nil, List.filter_cons_of_neg (by simp [hhead])]
    rfl

/-! ## Edits -/

/-- A change to the layout: an idle line is put between two lines, or blanks are put around one. -/
inductive Edit : List Line → List Line → Prop where
  | insert (before after : List Line) {line : Line} (hidle : IsIdle line) :
      Edit (before ++ after) (before ++ line :: after)
  | pad (before after : List Line) (line : Line) {left right : List Char}
      (hleft : Text.AllBlank left) (hright : Text.AllBlank right) :
      Edit (before ++ line :: after) (before ++ (left ++ line ++ right) :: after)

/-- Edits that are made or taken back lead from some lines to others. -/
def SameLayout : List Line → List Line → Prop := Relation.EqvGen Edit

/-- An `Edit` does not change which lines are `kept`. -/
theorem Edit.kept_eq {lines lines' : List Line} (h : Edit lines lines') :
    kept lines = kept lines' := by
  cases h with
  | insert before after hidle =>
    rw [kept_append, kept_append, kept_cons, kept_of_isIdle hidle, List.nil_append]
  | @pad before after line left right hleft hright =>
    have hline : kept [left ++ line ++ right] = kept [line] := by
      rw [kept, List.map_cons, Text.trim_padded hleft hright, kept, List.map_cons]
    rw [kept_append, kept_append, kept_cons line, kept_cons (left ++ line ++ right), hline]

/-- Lines of the `SameLayout` have the same lines that are `kept`. -/
theorem SameLayout.kept_eq {lines lines' : List Line} (h : SameLayout lines lines') :
    kept lines = kept lines' := by
  -- edits are made or taken back one after the other
  induction h with
  | rel _ _ hedit => exact hedit.kept_eq
  | refl => rfl
  | symm _ _ _ ih => exact ih.symm
  | trans _ _ _ _ _ ih ih' => exact ih.trans ih'

/-! ## Line ends -/

/-- The way in which a line ends: with `\n`, with a single `\r`, or with both. -/
inductive LineEnd where
  | feed
  | single
  | both
  deriving DecidableEq, Repr

/-- The characters of a line end. -/
def LineEnd.text : LineEnd → List Char
  | .feed => ['\n']
  | .single => ['\r']
  | .both => ['\r', '\n']

private theorem lines_eq (cs : List Char) : lines cs = kept (cs.splitOn '\n') := rfl

/-- A line is carried out, or left out, by itself. -/
private theorem lines_append_feed {line : Line} (hline : '\n' ∉ line) (cs : List Char) :
    lines (line ++ '\n' :: cs) = kept [line] ++ lines cs := by
  rw [lines_eq, List.splitOn_append_cons_self_of_not_mem hline, kept_cons, lines_eq]

/-- `unifyLineEnds` makes `\n` of a line end. If it has run into the next line, the rest has lost an
    empty line. -/
private theorem exists_unifyLineEnds_text (ending : LineEnd) (cs : List Char) :
    ∃ rest, Text.unifyLineEnds (ending.text ++ cs) = '\n' :: rest ∧
      lines rest = lines (Text.unifyLineEnds cs) := by
  cases ending with
  | feed => exact ⟨_, Text.unifyLineEnds_cons (by decide) cs, rfl⟩
  | both => exact ⟨_, rfl, rfl⟩
  | single =>
    cases cs with
    | nil => exact ⟨[], rfl, rfl⟩
    | cons c cs =>
      -- a single `\r` runs into a `\n` behind it
      by_cases hc : c = '\n'
      · subst hc
        refine ⟨Text.unifyLineEnds cs, rfl, ?_⟩
        rw [Text.unifyLineEnds_cons (by decide)]
        exact (lines_append_feed (List.not_mem_nil) _).symm
      · refine ⟨Text.unifyLineEnds (c :: cs), ?_, rfl⟩
        show Text.unifyLineEnds ('\r' :: c :: cs) = _
        rw [Text.unifyLineEnds, if_pos rfl]
        intro rest _ heq
        exact hc (List.cons.inj heq).1

/-! ## Manuscripts -/

/-- Lines without a line end in them. -/
def Unbroken (lines : List Line) : Prop := ∀ line ∈ lines, Text.Avoids ['\n', '\r'] line

instance (lines : List Line) : Decidable (Unbroken lines) :=
  List.decidableBAll (fun line => Text.Avoids ['\n', '\r'] line) lines

/-- A text as it was written: lines with their line ends, and a last line without one. -/
structure Manuscript where
  rows : List (Line × LineEnd)
  last : Line
  unbroken : Unbroken (rows.map (·.1) ++ [last])

namespace Manuscript

/-- The lines of a manuscript. -/
def lines (m : Manuscript) : List Line := m.rows.map (·.1) ++ [m.last]

/-- The text of a manuscript. -/
def text (m : Manuscript) : List Char := m.rows.flatMap (fun row => row.1 ++ row.2.text) ++ m.last

/-- The lines that are carried out are those that the manuscript keeps, whatever they end with. -/
theorem lines_text (m : Manuscript) : Story.lines (Text.unifyLineEnds m.text) = kept m.lines := by
  obtain ⟨rows, last, hunbroken⟩ := m
  simp only [text, lines]
  induction rows with
  | nil =>
    have hlast := hunbroken last (by simp)
    have hfeed : '\n' ∉ last := hlast _ (by simp)
    have hreturn : '\r' ∉ last := hlast _ (by simp)
    rw [List.flatMap_nil, List.nil_append, Text.unifyLineEnds_of_not_mem hreturn, lines_eq,
      List.splitOn_eq_singleton hfeed]
    rfl
  | cons row rows ih =>
    obtain ⟨line, ending⟩ := row
    have hline := hunbroken line (by simp)
    have hfeed : '\n' ∉ line := hline _ (by simp)
    have hreturn : '\r' ∉ line := hline _ (by simp)
    -- the first line and its end come off, and the rest is a shorter manuscript
    obtain ⟨rest, hunify, hrest⟩ := exists_unifyLineEnds_text ending
      (rows.flatMap (fun row => row.1 ++ row.2.text) ++ last)
    have htail := ih fun line hmem => hunbroken line (List.mem_cons_of_mem _ hmem)
    simp only [List.flatMap_cons, List.append_assoc]
    rw [Text.unifyLineEnds_append hreturn, hunify, lines_append_feed hfeed, hrest, htail]
    exact (kept_cons line _).symm

/-- A manuscript with one more character at its start is one. -/
private theorem exists_text_cons (c : Char) (m : Manuscript) :
    ∃ m' : Manuscript, m'.text = c :: m.text := by
  obtain ⟨rows, last, hunbroken⟩ := m
  have hrow (ending : LineEnd) : Unbroken ((([], ending) :: rows).map (·.1) ++ [last]) :=
    List.forall_mem_cons.2 ⟨fun _ _ => List.not_mem_nil, hunbroken⟩
  by_cases hfeed : c = '\n'
  · exact ⟨⟨([], .feed) :: rows, last, hrow _⟩, by rw [hfeed]; rfl⟩
  by_cases hreturn : c = '\r'
  · exact ⟨⟨([], .single) :: rows, last, hrow _⟩, by rw [hreturn]; rfl⟩
  -- else the character belongs to the first line
  have hcons {line : Line} (h : Text.Avoids ['\n', '\r'] line) :
      Text.Avoids ['\n', '\r'] (c :: line) := by
    intro mark hmark hmem
    rcases List.mem_cons.1 hmem with rfl | hmem
    · simp [hfeed, hreturn] at hmark
    · exact h mark hmark hmem
  cases rows with
  | nil =>
    refine ⟨⟨[], c :: last, ?_⟩, rfl⟩
    exact List.forall_mem_singleton.2 (hcons (hunbroken last (by simp)))
  | cons row rows =>
    obtain ⟨line, ending⟩ := row
    obtain ⟨hline, hrest⟩ := List.forall_mem_cons.1 hunbroken
    refine ⟨⟨(c :: line, ending) :: rows, last, ?_⟩, ?_⟩
    · exact List.forall_mem_cons.2 ⟨hcons hline, hrest⟩
    · simp [text]

/-- Every text is one of a manuscript. -/
theorem exists_text_eq (cs : List Char) : ∃ m : Manuscript, m.text = cs := by
  induction cs with
  | nil => exact ⟨⟨[], [], List.forall_mem_singleton.2 fun _ _ => List.not_mem_nil⟩, rfl⟩
  | cons c cs ih =>
    obtain ⟨m, rfl⟩ := ih
    exact exists_text_cons c m

end Manuscript

/-! ## Playing a story -/

/-- What is noted of a story at its start does not change how `play` plays it. -/
theorem exec_play_notes (notes notes' : Notes) (lines : List Line) (w : World) :
    (play notes lines).exec w = (play notes' lines).exec w := by
  -- there is only one way for the machine to end, and it takes no notes
  have hends (notes : Notes) : Ends Command.run lines (.top 0) w ((play notes lines).exec w) :=
    ends_playFrom 0 notes w lines.drop_zero
  obtain ⟨_, hruns⟩ := hends notes
  obtain ⟨_, hruns'⟩ := hends notes'
  exact (hruns.unique hruns').2

/-- The name of a story that has no `/` in it is that of a file in the folder of the stories. -/
theorem pathOf_of_slash {name : String} (hslash : '/' ∉ name.toList) :
    pathOf name = folder ++ "/" ++ name :=
  if_neg fun hhead => hslash (List.mem_of_head? hhead)

/-- `run` plays the lines of a story's text, if there is one. -/
private theorem exec_run_of_read {name : String} {w : World} {cs : List Char}
    (hname : isStoryName name = true) (hslash : '/' ∉ name.toList)
    (hread : w.disk.read (folder ++ "/" ++ name) = .ok (Text.Utf8.encode cs)) (notes : Notes) :
    (run name).exec w = (some <$> play notes (lines (Text.unifyLineEnds cs))).exec w := by
  have hfolder : w.disk.has folder = true :=
    Disk.has_of_read (by decide) (by decide) (by decide) (Disk.parts_inner (by decide) hslash) hread
  rw [← pathOf_of_slash hslash] at hread
  obtain ⟨notes', hopen⟩ :=
    exec_openStory hname (isPrefixOf?_mark_of_slash hslash) hfolder hread
      (Text.Utf8.decode_encode cs)
  simp only [run, exec_bind, hopen, exec_map, exec_play_notes notes' notes]

private theorem isStoryName_append (f : String) : isStoryName (f ++ ".txr") = true := by
  have hsmall : ".txr".toList.map Char.toLower = ".txr".toList := by decide
  rw [isStoryName, String.toList_append, List.map_append, hsmall, List.isSuffixOf_iff_suffix]
  exact List.suffix_append _ _

/-- Every text is one of a manuscript, and if the lines of two manuscripts have the same layout then
    a story is played in the same way from both, whatever their lines end with: it has the same
    result or fails with the same fault, shows the same and comes to the same world. The disks may
    be different in every other way, and they stay as they are. -/
theorem layout_does_not_matter {f : String} (hslash : '/' ∉ f.toList) {w : World} {d : Disk}
    {m m' : Manuscript} (hlayout : SameLayout m.lines m'.lines)
    (hread : w.disk.read (folder ++ "/" ++ (f ++ ".txr")) = .ok (Text.Utf8.encode m.text))
    (hread' : d.read (folder ++ "/" ++ (f ++ ".txr")) = .ok (Text.Utf8.encode m'.text)) :
    (∀ cs, ∃ m : Manuscript, m.text = cs) ∧
    (run (f ++ ".txr")).exec { w with disk := d } =
      (((run (f ++ ".txr")).exec w).1, { ((run (f ++ ".txr")).exec w).2 with disk := d }) ∧
    ((run (f ++ ".txr")).exec w).2.disk = w.disk := by
  have hname := isStoryName_append f
  have hplain : '/' ∉ (f ++ ".txr").toList := by
    rw [String.toList_append, List.mem_append, not_or]
    exact ⟨hslash, by decide⟩
  have hplay (notes : Notes) (lines : List Line) : OffDisk (some <$> play notes lines) :=
    OffDisk.rules.map some (OffDisk.play notes lines)
  -- both are the same lines to play, and these are played off the disk
  have hrun := exec_run_of_read hname hplain hread {}
  have hrun' := exec_run_of_read (w := { w with disk := d }) hname hplain hread' {}
  rw [m.lines_text, hlayout.kept_eq] at hrun
  rw [m'.lines_text] at hrun'
  rw [hrun, hrun']
  exact ⟨Manuscript.exists_text_eq, (hplay _ _).exec_disk w d, (hplay _ _).disk_eq w⟩

/-- A page of a story, plainly written. -/
def plainPage : Manuscript where
  rows := [("player(3, 4)".toList, .feed)]
  last := "say(Hi, Ann)".toList
  unbroken := by decide

/-- The page with a note at its top and blanks around its lines, and with all three line ends, of
    which the last two run together. -/
def oddPage : Manuscript where
  rows := [("\t# note".toList, .both), (['\u2028'] ++ "player(3, 4)".toList ++ [' '], .single),
    ([], .feed)]
  last := [' '] ++ "say(Hi, Ann)".toList ++ []
  unbroken := by decide

/-- Two lines are edited step by step. -/
private theorem sameLayout_odd (first second : Line) :
    SameLayout [first, second]
      ["\t# note".toList, ['\u2028'] ++ first ++ [' '], [], [' '] ++ second ++ []] := by
  have hnote : IsIdle "\t# note".toList := .inr (by decide)
  have hempty : IsIdle [] := .inl (List.forall_mem_nil _)
  have hblank : Text.AllBlank ['\u2028'] ∧ Text.AllBlank [' '] := by decide
  refine .trans _ _ _ (.rel _ _ (.insert [] _ hnote)) ?_
  refine .trans _ _ _ (.rel _ _ (.pad [_] _ _ hblank.1 hblank.2)) ?_
  refine .trans _ _ _ (.rel _ _ (.insert [_, _] _ hempty)) ?_
  exact .rel _ _ (.pad [_, _, _] [] _ hblank.2 (List.forall_mem_nil _))

/-- A world with a story on its disk. -/
def withPage (m : Manuscript) : World where
  disk := { entries := [(folder, .folder [("f.txr", .file (Text.Utf8.encode m.text))])] }

private theorem read_withPage (m : Manuscript) :
    (withPage m).disk.read (folder ++ "/" ++ ("f" ++ ".txr")) = .ok (Text.Utf8.encode m.text) := by
  have hpath : folder ++ "/" ++ ("f" ++ ".txr") = "games/f.txr" := by decide
  rw [hpath, Disk.read, find_story]
  rfl

/-- Both pages are played in the same way. -/
theorem odd_page_played_like_plain_page :
    '/' ∉ "f".toList ∧ SameLayout plainPage.lines oddPage.lines ∧
    (∀ m, (withPage m).disk.read (folder ++ "/" ++ ("f" ++ ".txr")) =
      .ok (Text.Utf8.encode m.text)) ∧
    (run ("f" ++ ".txr")).exec (withPage oddPage) =
      (((run ("f" ++ ".txr")).exec (withPage plainPage)).1,
        { ((run ("f" ++ ".txr")).exec (withPage plainPage)).2 with
          disk := (withPage oddPage).disk }) := by
  have hlayout : SameLayout plainPage.lines oddPage.lines := sameLayout_odd _ _
  refine ⟨by decide, hlayout, read_withPage, ?_⟩
  exact (layout_does_not_matter (by decide) hlayout (read_withPage plainPage)
    (read_withPage oddPage)).2.1

end Gamebook.Story

import Gamebook.Proofs.InGame
import Gamebook.Proofs.Loops
import Gamebook.Proofs.Story.Machine
import Gamebook.Proofs.Story.Whereabouts

/-!
# What a story can touch

Whatever is in its file, a story changes the game, asks and shows, and may make the folder of the
stories if there is nothing of that name. It touches nothing else, whether it comes to its end or
fails on the way: the language and the packs stay, and so does everything on the disk.

Only lines that are carried out change the game. Menus leave it alone, and so does the opening of
the file. If there is no text to play, no line is carried out. A file is read as a whole before the
first line is carried out, so that a byte out of place at its end is enough for that.

## Key results

- `InGame.confined`: what a game can touch
- `Runs.game_eq`: a run of the machine without a line that is carried out
- `hasText_of_deeds`: there is something to do only if there is a text
- `story_touches_only_game`: what a story can touch
-/

namespace Gamebook

open Play

/-! ## The world around a game -/

/-- What a game may change from one world to another: the game, the console and, on the disk, an
    empty folder for the stories behind the entries that are there, if none of them has its name. -/
structure World.Confined (w v : World) : Prop where
  others : v = { w with game := v.game, console := v.console, disk := v.disk }
  disk : v.disk = w.disk ∨
    Table.get? w.disk.entries Story.folder = none ∧
      v.disk = { w.disk with entries := w.disk.entries ++ [(Story.folder, .folder [])] }

theorem World.Confined.refl (w : World) : w.Confined w := ⟨rfl, .inl rfl⟩

/-- Two steps that are `Confined` make one: the folder is made only once. -/
theorem World.Confined.trans {u v w : World} (huv : u.Confined v) (hvw : v.Confined w) :
    u.Confined w := by
  refine ⟨?_, ?_⟩
  · rw [hvw.others, huv.others]
  · rcases hvw.disk with hsame | ⟨hnone, hmade⟩
    · rw [hsame]
      exact huv.disk
    · rcases huv.disk with hsame | ⟨-, hmade'⟩
      · rw [← hsame]
        exact .inr ⟨hnone, hmade⟩
      · -- there is a folder already, so that it cannot be made
        have hmem : Story.folder ∈ Table.names v.disk.entries := by
          simp [hmade', Table.names]
        rw [Table.mem_names_iff, hnone] at hmem
        cases hmem

/-- `makeFolder` leaves the disk alone, or puts an empty folder behind its entries. -/
private theorem Disk.makeFolder_eq (d : Disk) (name : String) :
    d.makeFolder name = d ∨ Table.get? d.entries name = none ∧
      d.makeFolder name = { d with entries := d.entries ++ [(name, .folder [])] } := by
  unfold makeFolder
  split
  · exact .inl rfl
  · rename_i hnone
    have hmem : name ∉ Table.names d.entries := by
      rw [Table.mem_names_iff, hnone]
      exact Bool.false_ne_true
    exact .inr ⟨hnone, by rw [Table.put_of_not_mem hmem]⟩

/-- A step that is `InGame` is `Confined`. -/
theorem Play.InGame.confined {α : Type} {p : Play α} (h : InGame p) (w : World) :
    w.Confined (p.exec w).2 :=
  h.preserves .refl .trans (fun _ _ => ⟨rfl, .inl rfl⟩) (fun _ _ => ⟨rfl, .inl rfl⟩)
    (fun w => ⟨rfl, w.disk.makeFolder_eq Story.folder⟩) w

/-! ## Steps that leave the game alone -/

/-- Menus and the opening of a story leave the game alone. -/
private theorem Play.Keeps.gameRules (g : Game) : FileRules (Keeps (·.game = g)) where
  pure := .pure
  fail _ := fun _ hw => hw
  bind := .bind
  traced := .traced
  lookAnswers next _ := .look next
  print _ := fun _ hw => hw
  pause _ := fun _ hw => hw
  tell := keeps_tell
  askPhrase := keeps_askPhrase
  lookDisk next _ := .look next
  ensureStories := by
    intro w hw
    rw [exec_ensureFolder]
    dsimp only
    split <;> exact hw

namespace Story

/-! ## Runs without a line that is carried out -/

section

variable {carry : Line → Play (Option Bool)} {lines : List Line} {place : Place} {w : World}

/-- A `step` of the machine in which no line is carried out leaves the game alone. -/
private theorem game_of_exec_step {v : World} {r : Except Fault Next}
    (h : (step carry lines place).exec w = (r, v))
    (hnone : ∀ i, .carried i ∉ (action lines place).deeds) : v.game = w.game := by
  cases haction : action lines place with
  | stop =>
    rw [exec_step_stop haction] at h
    cases h
    rfl
  | pass next =>
    rw [exec_step_pass haction] at h
    cases h
    rfl
  | ask i options =>
    -- a menu shows and asks, whatever it comes to
    have hmenu := (Keeps.gameRules w.game).choose options w rfl
    rw [exec_step_ask haction] at h
    rcases hchoose : (Menu.choose options).exec w with ⟨f | (_ | number), u⟩ <;>
      rw [hchoose] at h hmenu <;> cases h <;> exact hmenu
  | carry i line next =>
    rw [haction] at hnone
    exact absurd List.mem_cons_self (hnone i)

/-- A run of the machine in which no line is carried out leaves the game alone. -/
theorem Runs.game_eq {deeds : List Deed} {out : Except Fault Bool × World}
    (h : Runs carry lines place w deeds out) (hnone : ∀ i, .carried i ∉ deeds) :
    out.2.game = w.game := by
  induction h with
  | done h => exact game_of_exec_step h hnone
  | fault h => exact game_of_exec_step h hnone
  | go h rest ih =>
    simp only [List.mem_append, not_or] at hnone
    have hstep := game_of_exec_step h fun i => (hnone i).1
    exact (ih fun i => (hnone i).2).trans hstep

end

/-- If no line of a story is carried out, the game stays as it is. -/
theorem StoryRuns.game_eq {name : String} {w : World} {deeds : List Deed}
    {out : Except Fault (Option Bool) × World} (h : StoryRuns name w deeds out)
    (hnone : ∀ i, .carried i ∉ deeds) : out.2.game = w.game := by
  have hopened := (Keeps.gameRules w.game).openStory name w rfl
  unfold StoryRuns at h
  -- the story was opened and played, was refused, or could not be opened
  split at h <;> rename_i hopen <;> rw [hopen] at hopened
  · obtain ⟨won, hruns, rfl⟩ := h
    exact (hruns.game_eq hnone).trans hopened
  · rw [h.2]
    exact hopened
  · rw [h.2]
    exact hopened

/-! ## Stories without a text -/

/-- A disk has a text for a story: the name is that of a story, and at its path there is a file
    that is a text from its first byte to its last. -/
def HasText (d : Disk) (name : String) : Prop :=
  isStoryName name = true ∧
    ∃ cs, d.find (pathOf (unmarked name)) = .ok (.file (Text.Utf8.encode cs))

/-- What `readRaw` reads from a file is what the file was written with. -/
private theorem find_of_readRaw {path : String} {w v : World} {cs : List Char}
    (h : (readRaw path).exec w = (.ok cs, v)) :
    v = w ∧ w.disk.find path = .ok (.file (Text.Utf8.encode cs)) := by
  rw [← Disk.read_decode_iff]
  rw [readRaw, exec_bind_of_ok (exec_get w)] at h
  -- the file is read, then decoded; a failure of either is no text
  cases hread : w.disk.read path with
  | error failure =>
    rw [hread] at h
    cases h
  | ok content =>
    cases hdecode : Text.Utf8.decode content with
    | error fault =>
      simp only [hread, hdecode] at h
      cases h
    | ok raw =>
      simp only [hread, hdecode] at h
      cases h
      exact ⟨rfl, content, rfl, hdecode⟩

/-- A story that `openStory` opens `HasText`. -/
private theorem hasText_of_openStory {name : String} {w v : World} {opened : Notes × List Line}
    (h : (openStory name).exec w = (.ok (some opened), v)) : HasText v.disk name := by
  unfold openStory at h
  -- the name was not refused, there was a file, and it was text
  by_cases hname : isStoryName name = true
  · simp only [hname, Bool.not_true, Bool.false_eq_true, if_false] at h
    obtain ⟨m, _, hmark, h⟩ := exists_of_exec_bind h
    obtain ⟨rfl, -⟩ := unmarked_of_exec hmark
    obtain ⟨_, u, -, h⟩ := exists_of_exec_bind h
    rw [exec_bind_of_ok (exec_get u)] at h
    split at h
    · -- nothing is given if there is nothing at the path
      obtain ⟨_, _, -, h⟩ := exists_of_exec_bind h
      obtain ⟨_, _, -, h⟩ := exists_of_exec_bind h
      cases h
    · obtain ⟨raw, _, hread, hopened⟩ := exists_of_exec_bind h
      rw [exec_traced] at hread
      obtain ⟨rfl, hfind⟩ := find_of_readRaw hread
      cases hopened
      exact ⟨hname, raw, hfind⟩
  · simp only [hname, Bool.not_false, if_true] at h
    obtain ⟨_, _, -, h⟩ := exists_of_exec_bind h
    cases h

/-- There is something to do in a story only if it `HasText`. -/
theorem hasText_of_deeds {name : String} {w : World} {deeds : List Deed}
    (h : StoryRuns name w deeds ((run name).exec w)) (hdeeds : deeds ≠ []) :
    HasText ((run name).exec w).2.disk name := by
  rcases hopen : (openStory name).exec w with ⟨f | (_ | ⟨notes, lines⟩), v⟩
  · simp only [StoryRuns, hopen] at h
    exact absurd h.1 hdeeds
  · simp only [StoryRuns, hopen] at h
    exact absurd h.1 hdeeds
  · -- the lines are played off the disk, which is still the one on which the text was found
    have hplay := (OffDisk.rules.map some (OffDisk.play notes lines)).disk_eq v
    rw [run, exec_bind_of_ok hopen]
    dsimp only
    rw [hplay]
    exact hasText_of_openStory hopen

/-- A story touches nothing but the game, whether it comes to its end or fails. The language and
    the packs stay, what is on the disk stays, and all that may be new there is an empty folder for
    the stories. If no line is carried out the game stays as well, and without a text for the story
    there is nothing that is done at all. -/
theorem story_touches_only_game (name : String) (w : World) :
    ∃ deeds, StoryRuns name w deeds ((run name).exec w) ∧
      w.Confined ((run name).exec w).2 ∧
      ((∀ i, .carried i ∉ deeds) → ((run name).exec w).2.game = w.game) ∧
      (¬ HasText ((run name).exec w).2.disk name → deeds = []) := by
  obtain ⟨deeds, -, hruns⟩ := exists_storyRuns name w
  refine ⟨deeds, hruns, (InGame.story name).confined w, hruns.game_eq, fun htext => ?_⟩
  by_contra hdeeds
  exact htext (hasText_of_deeds hruns hdeeds)

/-- A story with a line that would change the player, and behind it a byte that is no text. -/
def spoiledStory : World where
  disk :=
    { entries := [(folder, .folder
        [("g.txr", .file (Text.Utf8.encode "player(5, 5)\n".toList ++ [0xff]))])] }

/-- The last byte is enough: the player stays as before. -/
theorem spoiled_story_leaves_game :
    ¬ HasText ((run "g.txr").exec spoiledStory).2.disk "g.txr" ∧
    ((run "g.txr").exec spoiledStory).2.game = spoiledStory.game := by
  obtain ⟨deeds, -, hconfined, hgame, hdeeds⟩ := story_touches_only_game "g.txr" spoiledStory
  have htext : ¬ HasText ((run "g.txr").exec spoiledStory).2.disk "g.txr" := by
    rintro ⟨-, cs, hfind⟩
    have hnone : (spoiledStory.disk.read (pathOf (unmarked "g.txr"))).toOption.bind
        (fun content => (Text.Utf8.decode content).toOption) = none := by
      decide +kernel
    -- the folder of the stories is there, so the disk is the one of the start
    rcases hconfined.disk with hsame | ⟨hfolder, -⟩
    · rw [hsame] at hfind
      obtain ⟨content, hread, hdecode⟩ := Disk.read_decode_iff.2 hfind
      rw [hread] at hnone
      simp only [Except.toOption, Option.bind_some, hdecode] at hnone
      cases hnone
    · cases hfolder
  refine ⟨htext, hgame fun i => ?_⟩
  rw [hdeeds htext]
  exact List.not_mem_nil

end Story

end Gamebook

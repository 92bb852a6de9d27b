import Gamebook.Proofs.Menu
import Gamebook.Proofs.Packs
import Gamebook.Proofs.Session
import Gamebook.Proofs.Story.Layout
import Gamebook.Proofs.Story.Whereabouts

/-!
# Stories that are listed and stories that are run

The list of stories shows the names in the folder that are names of stories. The prompt takes a name
out of the line that was typed, and looks at it three times before the story is opened: twice to see
whether it is the name of a story, and once to see whether there is something of this name. For a
name in the folder all that counts is whether it is that of a story, and so the prompt opens what
the list shows.

A pack may have words that look like a line of the list. The lines that count stand between the
heading and the words for a folder without stories.

## Key results

- `exec_list`: what the list of stories shows
- `storyAsked?_of_typed`: a name comes out of a typed line as it went in
- `exec_attempt_of_storyAsked`: a turn is finding a story, and playing it
- `exec_findStory_of_has`, `exec_findStory_of_refused`: how far the prompt comes with a name
- `listed_iff_opened_at_prompt`: the prompt opens what the list shows
-/

namespace Gamebook

open Play

namespace Story

variable {w : World} {stories : Table String Node} {name : String}

/-! ## The list of stories -/

/-- The names of stories among those in a folder, in the order in which the disk lists them. -/
def listed (d : Disk) (stories : Table String Node) : List String :=
  (d.listing stories).filter isStoryName

/-- The order of `listing` does not matter to what is `listed`. -/
private theorem mem_listed_iff {d : Disk} :
    name ∈ listed d stories ↔ name ∈ Table.names stories ∧ isStoryName name := by
  rw [listed, List.mem_filter, Disk.mem_listing]

/-- What is shown in a list of stories: a heading, a line for each of them, and the words for a
    folder without stories if there is none. -/
def listing (b : Phrasebook) (names : List String) : List Event :=
  .print (b.words "available_files" []) :: names.map (fun name => .print ("  - " ++ name)) ++
    if names.isEmpty then
      [.print (b.words "no_txr_files" []), .print (b.words "no_games_found" [])]
    else []

/-- A line is shown for each name. Induction on the names, for any events so far. -/
private theorem exec_showNames (names : List String) (events : List Event) (answers : List Answer) :
    (names.forM fun name => print ("  - " ++ name)).exec (Menu.after w events answers) =
      (.ok (), Menu.after w (events ++ names.map fun name => .print ("  - " ++ name)) answers) := by
  rw [List.forM_eq_forM]
  induction names generalizing events with
  | nil => simp [List.forM_nil]
  | cons name names ih =>
    have hprint : (print ("  - " ++ name)).exec (Menu.after w events answers) =
        (.ok (), Menu.after w (events ++ [.print ("  - " ++ name)]) answers) := by
      simp [Menu.after, Console.log]
    rw [List.forM_cons, exec_bind_of_ok hprint, ih, List.map_cons, List.append_assoc]
    rfl

/-- `list` shows the names of the stories in the folder, and changes nothing. -/
theorem exec_list (hcode : Phrasebook.isCode w.phrasebook.language = true)
    (hfolder : w.disk.find folder = .ok (.folder stories)) :
    list.exec w =
      (.ok (), Menu.after w (listing w.phrasebook (listed w.disk stories)) w.console.answers) := by
  have hensure : (ensureFolder folder).exec w = (.ok (), Menu.after w [] w.console.answers) := by
    simp [exec_ensureFolder, Disk.has, hfolder, Menu.after]
  have hnames (events : List Event) (answers : List Answer) :
      ((listFolder folder).traced fun _ => [.listStories]).exec (Menu.after w events answers) =
        (.ok (w.disk.listing stories), Menu.after w events answers) := by
    have hdisk : (Menu.after w events answers).disk = w.disk := rfl
    rw [exec_traced, exec_listFolder, hdisk, Disk.list, hfolder]
    rfl
  rw [list, exec_bind_of_ok hensure, exec_bind_of_ok (Menu.exec_tell_after hcode _ _),
    exec_bind_of_ok (hnames _ _)]
  dsimp only
  rw [← listed, exec_bind_of_ok (exec_showNames _ _ _), listing]
  -- the words for a folder without stories are shown only if there is none
  by_cases hnone : (listed w.disk stories).isEmpty = true
  · rw [if_pos hnone, if_pos hnone, exec_bind_of_ok (Menu.exec_tell_after hcode _ _),
      Menu.exec_tell_after hcode]
    simp
  · rw [if_neg hnone, if_neg hnone, exec_pure]
    simp

/-! ## Stories in their folder -/

/-- `refuse` tells that a name is not that of a story, and changes nothing. -/
private theorem exec_refuse (hcode : Phrasebook.isCode w.phrasebook.language = true)
    (name : String) :
    (refuse name).exec w =
      (.ok (), Menu.after w
        [.print (w.phrasebook.words "invalid_file_ext" [.text name]),
         .print (w.phrasebook.words "example_usage" [])] w.console.answers) := by
  have hstart : w = Menu.after w [] w.console.answers := by simp [Menu.after]
  refine (congrArg (refuse name).exec hstart).trans ?_
  rw [refuse, exec_bind_of_ok (Menu.exec_tell_after hcode _ _), Menu.exec_tell_after hcode]
  rfl

/-- What is in the folder of the stories is at the path of its name. -/
private theorem has_of_mem_names (hfolder : w.disk.find folder = .ok (.folder stories))
    (hmem : name ∈ Table.names stories) (hname : Disk.IsName name) (hslash : '/' ∉ name.toList)
    (hpath : Disk.isPath (folder ++ "/" ++ name) = true) :
    w.disk.has (folder ++ "/" ++ name) = true := by
  have hget : Table.get? w.disk.entries folder = some (.folder stories) := by
    rw [find_folder] at hfolder
    split at hfolder <;> cases hfolder
    assumption
  obtain ⟨node, hnode⟩ := Option.isSome_iff_exists.1 (Table.mem_names_iff.1 hmem)
  -- the path goes through the folder of the stories and ends with the name
  have hparts := Disk.parts_inner (by decide : '/' ∉ folder.toList) hslash
  rw [Disk.has, w.disk.find_inner hpath hparts (by decide) hname, hget]
  simp only [hnode]

/-- `locate` finds a story that is in the folder. -/
private theorem exec_locate_of_has (hname : isStoryName name = true) (hslash : '/' ∉ name.toList)
    (hfolder : w.disk.has folder = true) (hhas : w.disk.has (folder ++ "/" ++ name) = true) :
    (locate name).exec w = (.ok (some (name, folder ++ "/" ++ name)), w) := by
  have hmark := isPrefixOf?_mark_of_slash hslash
  simp only [locate, hname, Bool.not_true, Bool.false_eq_true, if_false, withoutMark, hmark,
    exec_bind, exec_pure, exec_ensureFolder, hfolder, if_true, exec_get, pathOf_of_slash hslash,
    hhas]

end Story

/-! ## Stories that are asked for at the prompt -/

namespace Prompt

variable {w u v : World} {word typed name : String}

/-- `storyAsked?` gets a name without blanks around it out of a typed line as it went in. -/
theorem storyAsked?_of_typed (hword : word.toList.map Char.toLower = "run".toList)
    (hname : name ≠ "") (htrim : Text.trim name.toList = name.toList) :
    storyAsked? (word ++ " " ++ name) = some name := by
  obtain ⟨first, second, third, hletters⟩ : ∃ a b c, word.toList = [a, b, c] :=
    List.length_eq_three.1 (by simpa using congrArg List.length hword)
  rw [hletters] at hword
  -- no blank has a letter as its small letter
  have hfirst : Text.isBlank first = false := by
    rw [Bool.eq_false_iff]
    intro hblank
    have hr : first.toLower = 'r' := (List.cons.inj hword).1
    rw [Text.toLower_of_isBlank hblank] at hr
    rw [hr] at hblank
    exact absurd hblank (by decide)
  have htyped : Text.trim (word ++ " " ++ name).toList =
      first :: ([second, third, ' '] ++ name.toList) := by
    have hline : (word ++ " " ++ name).toList = first :: ([second, third, ' '] ++ name.toList) := by
      simp [String.toList_append, hletters]
    rw [hline, Text.trim_append hfirst (by simpa using hname) htrim]
  -- the line was not trimmed, and so its first four characters are the word and the blank behind it
  have hsmall : (first :: ([second, third, ' '] ++ name.toList)).map Char.toLower =
      "run ".toList ++ name.toList.map Char.toLower := by
    have happend : first :: ([second, third, ' '] ++ name.toList) =
        [first, second, third] ++ ' ' :: name.toList := rfl
    rw [happend, List.map_append, hword]
    rfl
  have hrun : "run ".toList.isPrefixOf ("run ".toList ++ name.toList.map Char.toLower) = true :=
    List.isPrefixOf_iff_prefix.2 (List.prefix_append _ _)
  rw [storyAsked?, htyped]
  simp only [hsmall, hrun, if_true]
  simp [htrim]

/-- Looks for the story that a typed line asks for, up to where its file is opened. -/
def findStory (typed : String) : Play (Option (String × String)) := do
  keep "cmd" (.str (.ofChars (Text.trim typed.toList)))
  match storyAsked? typed with
  | none => return none
  | some name =>
    keep "filename" (.str name)
    if !Story.isStoryName name then
      Story.refuse name
      return none
    else
      modifyGame fun g => { g with player := {} }
      Story.locate name

/-- Asks for a command, and looks for the story that it asks for. -/
def reachStory : Play (Option (String × String)) := do
  findStory (← askPhrase "enter_command" [])

/-- A line that asks for a story is carried out by `findStory`, and by `playFound` if it was
    found. -/
private theorem exec_command_of_storyAsked (h : storyAsked? typed = some name) (w : World) :
    (command typed).exec w = (do let _ ← Story.playFound (← findStory typed)).exec w := by
  have hrun (v : World) :
      (do let _ ← (Story.run name).traced fun _ => [.promptRun]).exec v =
        (do let _ ← Story.playFound (← Story.locate name)).exec v := by
    rw [exec_bind, exec_traced, ← exec_bind, Story.run_eq_locate, bind_assoc]
  rw [command_of_storyAsked h, findStory, runStory]
  simp only [h]
  by_cases hname : Story.isStoryName name = true
  · simp only [hname, Bool.not_true, Bool.false_eq_true, if_false, bind_assoc]
    -- on both sides the story starts with the same things kept, and with a fresh player
    exact hrun _
  · simp [hname, Story.playFound]

/-- A turn in which a story is asked for is `reachStory`, and `playFound` if it was found. -/
theorem exec_attempt_of_storyAsked (htyped : (askPhrase "enter_command" []).exec w = (.ok typed, u))
    (h : storyAsked? typed = some name) :
    attempt.exec w = (do let _ ← Story.playFound (← reachStory); return none).exec w := by
  rw [attempt, reachStory, bind_assoc, exec_bind_of_ok htyped, exec_bind_of_ok htyped, exec_bind,
    exec_command_of_storyAsked h, ← exec_bind]
  simp only [bind_assoc, pure_bind]

/-- A question is answered by a line only if the language `isCode`, and nothing else changes than
    the console. -/
private theorem isCode_of_exec_askPhrase {key : String} {args : List Template.Arg}
    (htyped : (askPhrase key args).exec w = (.ok typed, u)) :
    Phrasebook.isCode w.phrasebook.language = true ∧ ∃ console, u = { w with console } := by
  have hcode : Phrasebook.isCode w.phrasebook.language = true := by
    -- a question in no language fails before it is asked
    by_contra hnot
    rw [exec_askPhrase, w.phrasebook.phrase_of_not_isCode _ _ (Bool.eq_false_iff.2 hnot)] at htyped
    cases htyped
  refine ⟨hcode, ?_⟩
  rw [exec_askPhrase_of_isCode hcode, exec_ask] at htyped
  split at htyped
  · cases htyped
  · exact ⟨_, (Prod.mk.inj htyped).2.symm⟩

/-- `findStory` finds a story that is in the folder. -/
theorem exec_findStory_of_has (h : storyAsked? typed = some name)
    (hname : Story.isStoryName name = true) (hslash : '/' ∉ name.toList)
    (hfolder : u.disk.has Story.folder = true)
    (hhas : u.disk.has (Story.folder ++ "/" ++ name) = true) :
    ∃ v, (findStory typed).exec u = (.ok (some (name, Story.folder ++ "/" ++ name)), v) := by
  rw [findStory]
  simp only [h, hname, Bool.not_true, Bool.false_eq_true, if_false]
  exact ⟨_, Story.exec_locate_of_has hname hslash hfolder hhas⟩

/-- `findStory` refuses what is not the name of a story, and the game stays as it is. -/
theorem exec_findStory_of_refused (hcode : Phrasebook.isCode u.phrasebook.language = true)
    (h : storyAsked? typed = some name) (hname : Story.isStoryName name = false) :
    ∃ v, (findStory typed).exec u = (.ok none, v) ∧ v.game = u.game := by
  rw [findStory]
  simp only [h, hname, Bool.not_false, if_true]
  refine ⟨_, exec_bind_of_ok (Story.exec_refuse ?_ name), rfl⟩
  exact hcode

/-- The prompt opens what the list shows. A name in the folder of the stories that has no blanks
    around it is listed exactly if the prompt comes to open its file in the folder when the name is
    typed behind the word `run`. If it is not listed, the game stays as it is. -/
theorem listed_iff_opened_at_prompt {stories : Table String Node}
    (hfolder : w.disk.find Story.folder = .ok (.folder stories))
    (hmem : name ∈ Table.names stories) (hname : Disk.IsName name) (hslash : '/' ∉ name.toList)
    (hpath : Disk.isPath (Story.folder ++ "/" ++ name) = true)
    (htrim : Text.trim name.toList = name.toList)
    (hword : word.toList.map Char.toLower = "run".toList)
    (htyped : (askPhrase "enter_command" []).exec w = (.ok (word ++ " " ++ name), u)) :
    Story.list.exec w =
      (.ok (), Menu.after w (Story.listing w.phrasebook (Story.listed w.disk stories))
        w.console.answers) ∧
    attempt.exec w = (do let _ ← Story.playFound (← reachStory); return none).exec w ∧
    (name ∈ Story.listed w.disk stories ↔
      ∃ v, reachStory.exec w = (.ok (some (name, Story.folder ++ "/" ++ name)), v)) ∧
    (name ∉ Story.listed w.disk stories → (turn.exec w).2.game = w.game) := by
  obtain ⟨hcode, console, rfl⟩ := isCode_of_exec_askPhrase htyped
  have hasked := storyAsked?_of_typed hword hname.1 htrim
  have hattempt := exec_attempt_of_storyAsked htyped hasked
  refine ⟨Story.exec_list hcode hfolder, hattempt, ?_⟩
  rw [Story.mem_listed_iff, reachStory, exec_bind_of_ok htyped]
  -- what is listed and what is reached both hang on the name alone
  cases hstory : Story.isStoryName name with
  | true =>
    have hhas := Story.has_of_mem_names hfolder hmem hname hslash hpath
    have hfolder' : w.disk.has Story.folder = true := by rw [Disk.has, hfolder]
    have hfind := exec_findStory_of_has (u := { w with console }) hasked hstory hslash hfolder' hhas
    exact ⟨iff_of_true ⟨hmem, rfl⟩ hfind, fun hnot => absurd ⟨hmem, rfl⟩ hnot⟩
  | false =>
    obtain ⟨v, hfind, hgame⟩ :=
      exec_findStory_of_refused (u := { w with console }) hcode hasked hstory
    refine ⟨iff_of_false (by simp) ?_, fun _ => ?_⟩
    · rintro ⟨v', hfound⟩
      cases hfind.symm.trans hfound
    · -- the prompt comes to no story, and so there is nothing to catch
      have hreach : reachStory.exec w = (.ok none, v) := (exec_bind_of_ok htyped).trans hfind
      rw [exec_bind_of_ok hreach] at hattempt
      have hturn : turn.exec w = (.ok none, v) := by
        rw [turn, exec_tryCatch, ← attempt, run_of_exec_ok hattempt]
      rw [hturn, hgame]

/-- The entries of a folder with a story, whose name has a letter in it that becomes two when it is
    made small, and with a file that is no story. -/
def shelf : Table String Node := [("İ.tXr", .file []), ("notes", .file [])]

/-- A player in front of the shelf, who types a line. -/
def atShelf (typed : String) : World where
  game := { player := ⟨7, 3⟩ }
  disk := { entries := [(Story.folder, .folder shelf)] }
  console := { answers := [.line typed] }

private theorem find_atShelf (typed : String) :
    (atShelf typed).disk.find Story.folder = .ok (.folder shelf) := by
  rw [Story.find_folder]
  rfl

private theorem exec_askPhrase_atShelf (typed : String) :
    ∃ u, (askPhrase "enter_command" []).exec (atShelf typed) = (.ok typed, u) := by
  rw [exec_askPhrase_of_isCode rfl, exec_ask]
  exact ⟨_, rfl⟩

theorem shelf_opened_as_listed :
    (∃ v, reachStory.exec (atShelf ("RuN" ++ " " ++ "İ.tXr")) =
      (.ok (some ("İ.tXr", "games/İ.tXr")), v)) ∧
    (turn.exec (atShelf ("run" ++ " " ++ "notes"))).2.game.player = ⟨7, 3⟩ := by
  have hpaths : Disk.isPath (Story.folder ++ "/" ++ "İ.tXr") = true ∧
      Disk.isPath (Story.folder ++ "/" ++ "notes") = true := by
    decide +kernel
  have hword : "RuN".toList.map Char.toLower = "run".toList := by decide
  have hword' : "run".toList.map Char.toLower = "run".toList := by decide
  obtain ⟨_, htyped⟩ := exec_askPhrase_atShelf ("RuN" ++ " " ++ "İ.tXr")
  obtain ⟨_, htyped'⟩ := exec_askPhrase_atShelf ("run" ++ " " ++ "notes")
  have hopened := listed_iff_opened_at_prompt (find_atShelf _) (by decide) (by decide) (by decide)
    hpaths.1 (by decide) hword htyped
  have hrefused := listed_iff_opened_at_prompt (find_atShelf _) (by decide) (by decide) (by decide)
    hpaths.2 (by decide) hword' htyped'
  -- whatever order the disk lists the shelf in
  have hlisted (d : Disk) : "İ.tXr" ∈ Story.listed d shelf := Story.mem_listed_iff.2 (by decide)
  have hunlisted (d : Disk) : "notes" ∉ Story.listed d shelf := fun h =>
    absurd (Story.mem_listed_iff.1 h).2 (by decide)
  exact ⟨hopened.2.2.1.1 (hlisted _), congrArg Game.player (hrefused.2.2.2 (hunlisted _))⟩

end Prompt

end Gamebook

import Gamebook.Proofs.Paths
import Gamebook.Proofs.Story.Opening

/-!
# Where stories are read from

A story is looked for at a path that is made from its name, and if there is something at the path it
is opened there. The name may hold slashes, and so the path may lead out of the folder of the
stories, and the name may start at the top of the disk. The story is in the folder exactly if the
name leads there, once all its steps are taken together: from the top of the disk down into the
folder, or up by some folders and down again through all of them.

## Key results

- `run_eq_locate`: playing a story is finding it, reading it and playing its lines
- `Opens.spec`: what is known of a story that is opened
- `getLast?_parts_unmarked`: the last part of a story's path is that of its name
- `opened_below_folder_iff`: which stories are read from their folder
-/

namespace Gamebook.Story

open Play

/-! ## Finding a story -/

/-- Looks for a story. Gives its name without the mark, and its path, if there is something at the
    path. -/
def locate (name : String) : Play (Option (String × String)) := do
  if !isStoryName name then
    refuse name
    return none
  else
    let name ← withoutMark name
    ensureFolder folder
    if !(← get).disk.has (pathOf name) then
      tell "file_not_found" [.text name]
      tell "file_lookup" [.text (pathOf name)]
      return none
    else return some (name, pathOf name)

/-- Reads the file of a story and plays it. -/
def playFile (name path : String) : Play Bool := do
  let raw ← (readRaw path).traced (readSteps name path)
  let text := Text.unifyLineEnds raw
  play (firstNotes name path raw text (lines text)) (lines text)

/-- Plays a story that was found. -/
def playFound : Option (String × String) → Play (Option Bool)
  | none => return none
  | some found => some <$> playFile found.1 found.2

/-- `run` is `locate`, and then `playFound` if the story was found. -/
theorem run_eq_locate (name : String) : run name = locate name >>= playFound := by
  unfold run openStory locate
  by_cases hname : isStoryName name = true
  · simp only [hname, Bool.not_true, Bool.false_eq_true, if_false, bind_assoc]
    -- both make the same steps up to where the file is looked for
    congr 1
    funext m
    congr 1
    funext _
    congr 1
    funext w
    cases w.disk.has (pathOf m)
    · simp [playFound]
    · simp [playFound, playFile, map_bind]
  · simp [hname, playFound]

/-- `Opens name path w v`: a story of this name is opened at a path, in the world `v` to which
    looking for it in `w` leads. -/
def Opens (name path : String) (w v : World) : Prop :=
  ∃ found, (locate name).exec w = (.ok (some (found, path)), v)

/-- A name without the mark `sys://`. -/
def unmarked (name : String) : String :=
  match "sys://".toList.isPrefixOf? name.toList with
  | some cs => String.ofList cs
  | none => name

variable {name path : String} {w v : World}

/-- `withoutMark` gives the name `unmarked`, and leaves the disk alone. -/
theorem unmarked_of_exec {m : String} (h : (withoutMark name).exec w = (.ok m, v)) :
    m = unmarked name ∧ v.disk = w.disk := by
  unfold withoutMark at h
  unfold unmarked
  cases hmark : "sys://".toList.isPrefixOf? name.toList with
  | none =>
    simp only [hmark] at h
    cases h
    exact ⟨rfl, rfl⟩
  | some cs =>
    simp only [hmark] at h
    -- a mark is told of before it is dropped
    obtain ⟨_, u, htell, h⟩ := exists_of_exec_bind h
    cases h
    rw [exec_tell] at htell
    refine ⟨rfl, ?_⟩
    split at htell <;> cases htell
    rfl

/-- A story is opened only if its name is that of a story and there is something at its path. Then
    its file is read and played. -/
theorem Opens.spec (h : Opens name path w v) :
    isStoryName name = true ∧ path = pathOf (unmarked name) ∧ v.disk.has path = true ∧
      (run name).exec w = (some <$> playFile (unmarked name) path).exec v := by
  obtain ⟨m, hfound⟩ := h
  have hrun : (run name).exec w = (some <$> playFile m path).exec v := by
    rw [run_eq_locate, exec_bind_of_ok hfound, playFound]
  unfold locate at hfound
  by_cases hname : isStoryName name = true
  · simp only [hname, Bool.not_true, Bool.false_eq_true, if_false] at hfound
    obtain ⟨m', u, hmark, hfound⟩ := exists_of_exec_bind hfound
    obtain ⟨rfl, -⟩ := unmarked_of_exec hmark
    obtain ⟨_, u', -, hfound⟩ := exists_of_exec_bind hfound
    rw [exec_bind_of_ok (exec_get u')] at hfound
    cases hhas : u'.disk.has (pathOf (unmarked name))
    · -- nothing is given if there is nothing at the path
      simp only [hhas, Bool.not_false, if_true] at hfound
      obtain ⟨_, _, -, hfound⟩ := exists_of_exec_bind hfound
      obtain ⟨_, _, -, hfound⟩ := exists_of_exec_bind hfound
      cases hfound
    · simp only [hhas, Bool.not_true, Bool.false_eq_true, if_false] at hfound
      cases hfound
      exact ⟨hname, rfl, hhas, hrun⟩
  · simp only [hname, Bool.not_false, if_true] at hfound
    obtain ⟨_, _, -, hfound⟩ := exists_of_exec_bind hfound
    cases hfound

/-! ## The names of stories -/

/-- The last part of the name of a story is the name of a story too. -/
private theorem exists_parts_of_isStoryName (hname : isStoryName name = true) :
    ∃ last, (Disk.parts name).getLast? = some last ∧ isStoryName last = true := by
  obtain ⟨ending, ⟨front, hfront⟩, hending⟩ :=
    List.suffix_map_iff.1 (List.isSuffixOf_iff_suffix.1 hname)
  -- no slash stands in the ending, which is therefore part of the last piece
  have hslash : '/' ∉ ending := by
    intro hmem
    have hsmall : '/'.toLower ∈ ".txr".toList := hending ▸ List.mem_map_of_mem hmem
    revert hsmall
    decide
  obtain ⟨pieces, last, -, hpieces⟩ := Text.exists_splitOn_append hslash front
  refine ⟨String.ofList (last ++ ending), ?_, ?_⟩
  · rw [Disk.parts, ← hfront, hpieces]
    simp
  · have hsmall : (String.ofList (last ++ ending)).toList.map Char.toLower =
        last.map Char.toLower ++ ".txr".toList := by
      rw [String.toList_ofList, List.map_append, hending]
    rw [isStoryName, hsmall, List.isSuffixOf_iff_suffix]
    exact List.suffix_append _ _

/-- The mark at the start of a name does not change its last part. -/
theorem getLast?_parts_unmarked (name : String) :
    (Disk.parts (unmarked name)).getLast? = (Disk.parts name).getLast? := by
  unfold unmarked
  split
  · rename_i cs hmark
    have hmarked : "sys://".toList ++ cs = "sys:".toList ++ '/' :: ([] ++ '/' :: cs) := rfl
    have hname := (List.append_eq_of_isPrefixOf?_eq_some hmark).symm.trans hmarked
    -- the mark is parts of its own, and there is a part behind it
    obtain ⟨pieces, last, hpieces, -⟩ :=
      Text.exists_splitOn_append (List.not_mem_nil (a := '/')) cs
    rw [Disk.parts, Disk.parts, hname, List.splitOn_append_cons_self_of_not_mem (by decide),
      List.splitOn_append_cons_self_of_not_mem List.not_mem_nil, String.toList_ofList, hpieces]
    simp [List.getLast?_cons]
  · rfl

private theorem isName_of_isStoryName (h : isStoryName name = true) : Disk.IsName name := by
  refine ⟨?_, ?_, ?_⟩ <;> rintro rfl <;> revert h <;> decide

/-- The route of a story's name ends in the name of a story. -/
private theorem exists_names_routeOf (hname : isStoryName name = true) :
    ∃ last names, (Disk.routeOf (unmarked name)).names = last :: names ∧
      isStoryName last = true := by
  obtain ⟨last, hlast, hstory⟩ := exists_parts_of_isStoryName hname
  rw [← getLast?_parts_unmarked, List.getLast?_eq_some_iff] at hlast
  obtain ⟨front, hparts⟩ := hlast
  refine ⟨last, (front.foldl Disk.Route.enter {}).names, ?_, hstory⟩
  rw [Disk.routeOf, hparts, List.foldl_append, List.foldl_cons, List.foldl_nil,
    Disk.Route.enter_name _ (isName_of_isStoryName hstory)]

/-! ## Stories in their folder -/

/-- The place of the folder of the stories. -/
def shelf (d : Disk) : List String := folder :: d.standing

/-- The name of a story leads to below the folder of the stories: from the top of the disk down
    through the folder, or up and down again through all folders that it has left. A name that does
    not go up has left none. -/
def LeadsBelow (d : Disk) (name : String) : Prop :=
  if Disk.isAbsolute name then shelf d <:+ (Disk.routeOf name).names
  else (shelf d).take (Disk.routeOf name).up <:+ (Disk.routeOf name).names

instance (d : Disk) (name : String) : Decidable (LeadsBelow d name) :=
  inferInstanceAs (Decidable (if Disk.isAbsolute name = true then _ <:+ _ else _ <:+ _))

/-- The path of a story is below the folder of the stories exactly if its name `LeadsBelow`. -/
private theorem isBelow_pathOf_iff (d : Disk) {last : String} {names : List String}
    (hnames : (Disk.routeOf name).names = last :: names) (hlast : isStoryName last = true) :
    Disk.IsBelow (shelf d) (d.placeOf (pathOf name)) ↔ LeadsBelow d name := by
  -- the folder itself has not the name of a story
  have hhead {place : List String} (hplace : place.head? = some last) :
      place.head? ≠ (shelf d).head? := by
    intro heq
    rw [hplace] at heq
    rw [Option.some.inj heq] at hlast
    revert hlast
    decide
  unfold LeadsBelow pathOf
  -- the path starts at the top of the disk, or in the folder of the stories
  by_cases htop : name.toList.head? = some '/'
  · have habs : Disk.isAbsolute name = true := by simpa [Disk.isAbsolute] using htop
    rw [if_pos htop, if_pos habs, d.placeOf_of_isAbsolute habs]
    exact Disk.isBelow_iff (hhead (by rw [hnames, List.head?_cons]))
  · have habs : ¬ Disk.isAbsolute name = true := by simpa [Disk.isAbsolute] using htop
    rw [if_neg htop, if_neg habs, d.placeOf_inner (by decide) (by decide),
      ← Disk.Route.suffix_place_iff]
    exact Disk.isBelow_iff (hhead (by simp [Disk.Route.place, hnames]))

/-- A story that is opened is what is at the place to which its path leads. The place is below the
    folder of the stories exactly if the name of the story, without the mark, leads there. -/
theorem opened_below_folder_iff (h : Opens name path w v) :
    (run name).exec w = (some <$> playFile (unmarked name) path).exec v ∧
    (∃ node, v.disk.find path = .ok node ∧
      (∀ part ∈ v.disk.placeOf path, Disk.IsName part) ∧
      Disk.walk (v.disk.placeOf path).reverse v.disk.top [] = .ok node) ∧
    (Disk.IsBelow (shelf v.disk) (v.disk.placeOf path) ↔ LeadsBelow v.disk (unmarked name)) := by
  obtain ⟨hname, hpath, hhas, hrun⟩ := h.spec
  refine ⟨hrun, ?_, ?_⟩
  · -- there is something at the path, and following its place from the top leads to the same
    rw [Disk.has] at hhas
    cases hfind : v.disk.find path with
    | error failure =>
      rw [hfind] at hhas
      cases hhas
    | ok node => exact ⟨node, rfl, Disk.walk_placeOf hfind⟩
  · obtain ⟨last, names, hnames, hlast⟩ := exists_names_routeOf hname
    rw [hpath]
    exact isBelow_pathOf_iff v.disk hnames hlast

/-- A disk with a story in the folder of the stories, and with one beside the folder. -/
def strayStory : World where
  disk :=
    { entries := [("x.txr", .file (Text.Utf8.encode "player(5, 5)".toList)),
      (folder, .folder [("sub", .folder []), ("g.txr", .file [])])] }

/-- A name may go down and up again, and through other folders. It may even go up, or start at the
    top of the disk, if it comes back into the folder. -/
theorem winding_story_opened_below_folder :
    strayStory.disk.standing = ["player", "home"] ∧
    (∃ v, Opens "sys://sub/.././/g.txr" "games/sub/.././/g.txr" strayStory v ∧
      Disk.IsBelow (shelf v.disk) (v.disk.placeOf "games/sub/.././/g.txr")) ∧
    (∃ v, Opens "../../player/games/g.txr" "games/../../player/games/g.txr" strayStory v ∧
      Disk.IsBelow (shelf v.disk) (v.disk.placeOf "games/../../player/games/g.txr")) ∧
    ∃ v, Opens "/home/../home/player/games/g.txr" "/home/../home/player/games/g.txr" strayStory v ∧
      Disk.IsBelow (shelf v.disk) (v.disk.placeOf "/home/../home/player/games/g.txr") := by
  -- each name is found, and leads back into the folder
  have hbelow (name path : String) (found : String)
      (hfound : ((locate name).exec strayStory).1.toOption = some (some (found, path)) ∧
        LeadsBelow ((locate name).exec strayStory).2.disk (unmarked name)) :
      ∃ v, Opens name path strayStory v ∧ Disk.IsBelow (shelf v.disk) (v.disk.placeOf path) := by
    have hopens : Opens name path strayStory _ := ⟨_, exec_of_toOption hfound.1⟩
    exact ⟨_, hopens, (opened_below_folder_iff hopens).2.2.2 hfound.2⟩
  exact ⟨rfl, hbelow _ _ "sub/.././/g.txr" (by decide +kernel),
    hbelow _ _ "../../player/games/g.txr" (by decide +kernel),
    hbelow _ _ "/home/../home/player/games/g.txr" (by decide +kernel)⟩

/-- The story beside the folder is opened and played, by a name that goes up and by one that starts
    at the top of the disk. -/
theorem stray_story_opened :
    (∃ v, Opens "../x.txr" "games/../x.txr" strayStory v ∧
      ¬ Disk.IsBelow (shelf v.disk) (v.disk.placeOf "games/../x.txr")) ∧
    ((run "../x.txr").exec strayStory).2.game.player = ⟨5, 5⟩ ∧
    (∃ v, Opens "/home/player/x.txr" "/home/player/x.txr" strayStory v ∧
      ¬ Disk.IsBelow (shelf v.disk) (v.disk.placeOf "/home/player/x.txr")) ∧
    ((run "/home/player/x.txr").exec strayStory).2.game.player = ⟨5, 5⟩ := by
  -- each name is found, and leads elsewhere
  have hstray (name path : String)
      (hfound : ((locate name).exec strayStory).1.toOption = some (some (name, path)) ∧
        ¬ Disk.IsBelow (shelf ((locate name).exec strayStory).2.disk)
          (((locate name).exec strayStory).2.disk.placeOf path)) :
      ∃ v, Opens name path strayStory v ∧ ¬ Disk.IsBelow (shelf v.disk) (v.disk.placeOf path) :=
    ⟨_, ⟨_, exec_of_toOption hfound.1⟩, hfound.2⟩
  exact ⟨hstray _ _ (by decide +kernel), by decide +kernel, hstray _ _ (by decide +kernel),
    by decide +kernel⟩

end Gamebook.Story

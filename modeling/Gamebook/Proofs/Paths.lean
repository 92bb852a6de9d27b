import Gamebook.Proofs.Disk

/-!
# Where paths lead

A path may start at the top of the disk or in the working folder, go up and down, and pass through
the same folder more than once. What counts is the place that it leads to, which `placeOf` reads off
the `parts` of the path and the place of the working folder, without a look at the disk. What `find`
finds is what is at that place.

`routeOf` needs the path alone: how many folders it goes up in all, and the names that it goes down
from there. From any place a path leads where its route leads.

## Key results

- `walk_placeOf`: `find` leads to what is at the place of a path
- `foldl_enter`: following a path is following its route
- `placeOf_inner`: the place of a path that starts in a folder of the working folder
- `Route.suffix_place_iff`: which routes lead back to below where they start
-/

namespace Gamebook.Disk

/-! ## Places -/

/-- The place to which a part of a path leads from another place. A place is given by the names of
    the folders from the top of the disk on and of what is there, the last name first. -/
def enter (place : List String) (part : String) : List String :=
  if part = "" ∨ part = "." then place
  else if part = ".." then place.tail
  else part :: place

/-- The place of the working folder. -/
def standing (d : Disk) : List String := d.around.map (·.name)

/-- The place to which a path leads. -/
def placeOf (d : Disk) (path : String) : List String :=
  (parts path).foldl enter (if isAbsolute path then [] else d.standing)

/-- A place that is below another one, and not that place itself. -/
def IsBelow (base place : List String) : Prop := base <:+ place ∧ place ≠ base

instance (base place : List String) : Decidable (IsBelow base place) :=
  inferInstanceAs (Decidable (_ ∧ _))

theorem enter_name (place : List String) {name : String} (hname : IsName name) :
    enter place name = name :: place := by
  simp only [enter, hname.1, hname.2.1, hname.2.2, or_self, if_false]

/-- A place that ends in another name than `base` is below `base` if it goes through `base`. -/
theorem isBelow_iff {base place : List String} (hlast : place.head? ≠ base.head?) :
    IsBelow base place ↔ base <:+ place :=
  and_iff_left fun heq => hlast (congrArg List.head? heq)

/-! ## Following a path -/

/-- `Reaches top names here above`: one has come from the top down to the node `here` by names, the
    last one first, through the folders `above`. -/
inductive Reaches (top : Node) : (names : List String) → (here : Node) → (above : List Node) → Prop
  | start : Reaches top [] top []
  | into {names : List String} {entries : Table String Node} {above : List Node} {name : String}
      {node : Node} (h : Reaches top names (.folder entries) above) (hname : IsName name)
      (hget : Table.get? entries name = some node) :
      Reaches top (name :: names) node (.folder entries :: above)

variable {top here node : Node} {names : List String} {above : List Node}

/-- Whoever walks the names comes to the same node, in the same way. -/
private theorem Reaches.walk_names (h : Reaches top names here above) (rest : List String) :
    walk (names.reverse ++ rest) top [] = walk rest here above := by
  induction h generalizing rest with
  | start => rfl
  | into h hname hget ih =>
    rw [List.reverse_cons, List.append_assoc, List.singleton_append, ih, walk_name hname, hget]

theorem Reaches.isName (h : Reaches top names here above) : ∀ name ∈ names, IsName name := by
  induction h with
  | start => exact List.forall_mem_nil _
  | into h hname hget ih => exact List.forall_mem_cons.2 ⟨hname, ih⟩

/-- The folders `enclosing` a node lead from the outermost one down to it. -/
private theorem reaches_enclosing (inner : Node) (outers : List Outer) :
    Reaches ((enclosing inner outers).getLast?.getD inner) (outers.map (·.name)) inner
      (enclosing inner outers) := by
  induction outers generalizing inner with
  | nil => exact .start
  | cons o outers ih =>
    have hget : Table.get? ((o.name, inner) :: o.others) o.name = some inner := by
      simp [Table.get?]
    have hinto := (ih (.folder ((o.name, inner) :: o.others))).into o.isName hget
    rwa [enclosing, List.getLast?_cons, Option.getD_some]

private theorem reaches_here (d : Disk) : Reaches d.top d.standing d.here d.above :=
  reaches_enclosing d.here d.around

/-- A `walk` keeps track of the place: it leads to the node to which the names of `enter` lead. -/
theorem Reaches.walk {parts : List String} (h : Reaches top names here above)
    (hwalk : walk parts here above = .ok node) :
    ∃ above', Reaches top (parts.foldl enter names) node above' := by
  induction parts generalizing names here above with
  | nil =>
    cases hwalk
    exact ⟨above, h⟩
  | cons part parts ih =>
    cases here with
    | file content => cases hwalk
    | folder entries =>
      rw [walk.eq_def] at hwalk
      rw [List.foldl_cons, enter]
      dsimp only at hwalk
      -- the part stays where it is, goes up, or is a name
      by_cases hstay : part = "" ∨ part = "."
      · rw [if_pos hstay] at hwalk ⊢
        exact ih h hwalk
      rw [if_neg hstay] at hwalk ⊢
      by_cases hup : part = ".."
      · rw [if_pos hup] at hwalk ⊢
        -- at the top there is neither a name to take back nor a folder above
        cases h with
        | start => exact ih .start hwalk
        | into h hname hget => exact ih h hwalk
      · rw [if_neg hup] at hwalk ⊢
        obtain ⟨hempty, hdot⟩ := not_or.1 hstay
        cases hget : Table.get? entries part with
        | none =>
          rw [hget] at hwalk
          cases hwalk
        | some inner =>
          rw [hget] at hwalk
          exact ih (h.into ⟨hempty, hdot, hup⟩ hget) hwalk

/-- What `find` finds is what is at the place of the path: whoever walks the names of the place from
    the top of the disk comes to the same node. -/
theorem walk_placeOf {d : Disk} {path : String} (h : d.find path = .ok node) :
    (∀ name ∈ d.placeOf path, IsName name) ∧
      Disk.walk (d.placeOf path).reverse d.top [] = .ok node := by
  have hreaches : ∃ above, Reaches d.top (d.placeOf path) node above := by
    rw [find] at h
    rw [placeOf]
    split at h
    · -- the walk starts at the top of the disk or in the working folder
      split at h
      · rw [if_pos ‹_›]
        exact Reaches.start.walk h
      · rw [if_neg ‹_›]
        exact d.reaches_here.walk h
    · cases h
  obtain ⟨above, hreaches⟩ := hreaches
  have hwalk := hreaches.walk_names []
  rw [List.append_nil] at hwalk
  exact ⟨hreaches.isName, hwalk⟩

/-! ## Routes -/

/-- Where a path leads from any place. -/
structure Route where
  /-- How many folders it is up to the one in which the names start. -/
  up : Nat := 0
  /-- The names on the way down, the last one first. -/
  names : List String := []
  deriving DecidableEq, Repr

namespace Route

/-- A route with one more part. -/
def enter (r : Route) (part : String) : Route :=
  if part = "" ∨ part = "." then r
  else if part = ".." then
    match r.names with
    | [] => { r with up := r.up + 1 }
    | _ :: names => { r with names }
  else { r with names := part :: r.names }

/-- The place to which a route leads from a place. -/
def place (r : Route) (base : List String) : List String := r.names ++ base.drop r.up

theorem enter_name (r : Route) {name : String} (hname : IsName name) :
    r.enter name = { r with names := name :: r.names } := by
  simp only [enter, hname.1, hname.2.1, hname.2.2, or_self, if_false]

/-- `Route.enter` leads where `Disk.enter` leads from the place of the route. -/
private theorem place_enter (r : Route) (base : List String) (part : String) :
    (r.enter part).place base = Disk.enter (r.place base) part := by
  obtain ⟨up, names⟩ := r
  by_cases hstay : part = "" ∨ part = "."
  · simp only [enter, Disk.enter, hstay, if_true]
  by_cases hup : part = ".."
  · -- without a name to take back, the step leads further up
    cases names <;> simp [enter, Disk.enter, place, hup, List.tail_drop]
  · simp [enter, Disk.enter, place, hstay, hup]

/-- A route leads back to below the place where it starts exactly if it comes down again through all
    folders through which it went up. -/
theorem suffix_place_iff (r : Route) (base : List String) :
    base <:+ r.place base ↔ base.take r.up <:+ r.names := by
  -- what the route goes up through is the rest of `base`, which has to come back
  have hbase : base.take r.up ++ base.drop r.up = base := List.take_append_drop r.up base
  constructor
  · rintro ⟨inner, hinner⟩
    have hsame : inner ++ base.take r.up ++ base.drop r.up = r.names ++ base.drop r.up := by
      rw [List.append_assoc, hbase]
      exact hinner
    exact ⟨inner, List.append_cancel_right hsame⟩
  · rintro ⟨inner, hinner⟩
    exact ⟨inner, by rw [place, ← hinner, List.append_assoc, hbase]⟩

end Route

/-- The route of a path. -/
def routeOf (path : String) : Route := (parts path).foldl Route.enter {}

/-- Following parts from a place is following their route. -/
theorem foldl_enter (parts : List String) (base : List String) :
    parts.foldl enter base = (parts.foldl Route.enter {}).place base := by
  have hgen (r : Route) :
      parts.foldl enter (r.place base) = (parts.foldl Route.enter r).place base := by
    induction parts generalizing r with
    | nil => rfl
    | cons part parts ih => rw [List.foldl_cons, List.foldl_cons, ← r.place_enter, ih]
  exact hgen {}

/-- A path that starts at the top of the disk leads to the names of its route. -/
theorem placeOf_of_isAbsolute (d : Disk) {path : String} (h : isAbsolute path = true) :
    d.placeOf path = (routeOf path).names := by
  rw [placeOf, if_pos h, foldl_enter, Route.place, List.drop_nil, List.append_nil, routeOf]

/-- A path that starts in a folder of the working folder leads where the rest of it leads from
    there. -/
theorem placeOf_inner (d : Disk) {folder : String} (hfolder : IsName folder)
    (hslash : '/' ∉ folder.toList) (rest : String) :
    d.placeOf (folder ++ "/" ++ rest) = (routeOf rest).place (folder :: d.standing) := by
  have hparts := parts_append hslash rest
  rw [placeOf, not_isAbsolute hfolder hparts, hparts, List.foldl_cons, foldl_enter, routeOf]
  congr 1
  exact enter_name _ hfolder

end Gamebook.Disk

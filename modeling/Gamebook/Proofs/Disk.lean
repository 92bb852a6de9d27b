import Gamebook.Disk
import Gamebook.Proofs.Text.Lines
import Gamebook.Proofs.Text.Utf8

/-!
# Finding and writing files

The program uses two kinds of paths of its own: a name in the working folder, and a name in one of
the folders there. For these `find` and `write` are look-ups in one or two tables.

## Key results

- `parts_inner`: the names that a path is made of
- `find_name`, `find_inner`: what is at such a path
- `read_decode_iff`: which files are texts
- `mem_listing`: what is listed of a folder, in whatever order
- `write_name`, `write_inner`: what is written there, and when it cannot be
-/

namespace Gamebook

theorem toOption_eq_some {ε α : Type} {r : Except ε α} {a : α} :
    r.toOption = some a ↔ r = .ok a := by
  cases r <;> simp [Except.toOption]

namespace Table

variable {α β : Type} [DecidableEq α]

@[simp] theorem put_ne_nil (t : Table α β) (name : α) (value : β) : put t name value ≠ [] := by
  cases t with
  | nil => exact List.cons_ne_nil _ _
  | cons entry t =>
    rw [put]
    split <;> exact List.cons_ne_nil _ _

theorem put_put (t : Table α β) (name : α) (value value' : β) :
    put (put t name value) name value' = put t name value' := by
  induction t with
  | nil => simp [put]
  | cons entry t ih =>
    obtain ⟨n, v⟩ := entry
    by_cases h : n = name <;> simp [put, h, ih]

/-- `names` holds exactly the names that `get?` finds a value for. -/
theorem mem_names_iff {t : Table α β} {name : α} :
    name ∈ names t ↔ (get? t name).isSome = true := by
  induction t with
  | nil => simp [names, get?]
  | cons entry t ih =>
    obtain ⟨n, v⟩ := entry
    by_cases hn : n = name
    · simp [names, get?, hn]
    · have hne : name ≠ n := fun h => hn h.symm
      simpa [names, get?, hn, hne] using ih

theorem get?_erase_self (t : Table α β) (name : α) : get? (erase t name) name = none := by
  induction t with
  | nil => rfl
  | cons entry t ih =>
    obtain ⟨n, v⟩ := entry
    -- an entry of this name is dropped, and there may be more of them behind it
    by_cases h : n = name
    · have hdrop : erase ((n, v) :: t) name = erase t name := by simp [erase, h]
      rw [hdrop, ih]
    · have hkeep : erase ((n, v) :: t) name = (n, v) :: erase t name := by simp [erase, h]
      rw [hkeep, get?, if_neg h, ih]

end Table

namespace Disk

/-- `walk` goes into what has a name in a folder, and keeps the folder as the nearest above. -/
theorem walk_name {name : String} (hname : IsName name) (parts : List String)
    (entries : Table String Node) (above : List Node) :
    walk (name :: parts) (.folder entries) above =
      match Table.get? entries name with
      | none => .error .missing
      | some node => walk parts node (.folder entries :: above) := by
  rw [walk.eq_def]
  cases hget : Table.get? entries name <;>
    simp only [hname.1, hname.2.1, hname.2.2, or_self, if_false, hget]

variable {path folder name : String}

/-- The first of the `parts` of a path is the name of the folder that it starts in. -/
theorem parts_append (hfolder : '/' ∉ folder.toList) (rest : String) :
    parts (folder ++ "/" ++ rest) = folder :: parts rest := by
  have hpath : (folder ++ "/" ++ rest).toList = folder.toList ++ '/' :: rest.toList := by
    simp [String.toList_append]
  rw [parts, hpath, List.splitOn_append_cons_self_of_not_mem hfolder, parts]
  simp

/-- The `parts` of the path to what has a name in a folder. -/
theorem parts_inner (hfolder : '/' ∉ folder.toList) (hname : '/' ∉ name.toList) :
    parts (folder ++ "/" ++ name) = [folder, name] := by
  rw [parts_append hfolder, parts, List.splitOn_eq_singleton hname]
  simp

/-- A path whose first part is a name is not one that `isAbsolute`. -/
theorem not_isAbsolute {rest : List String} (hname : IsName name)
    (hparts : parts path = name :: rest) : isAbsolute path = false := by
  by_contra habs
  rw [Bool.not_eq_false, isAbsolute, beq_iff_eq, List.head?_eq_some_iff] at habs
  obtain ⟨cs, hcs⟩ := habs
  -- before a slash at the start there is an empty part
  have hempty : (name :: rest).head? = some "" := by
    rw [← hparts, parts, hcs]
    rfl
  exact hname.1 (Option.some.inj hempty)

/-- `find` starts at the working folder if the first part of the path is a name. -/
private theorem find_eq_walk {rest : List String} (d : Disk) (hpath : isPath path = true)
    (hname : IsName name) (hparts : parts path = name :: rest) :
    d.find path = walk (name :: rest) d.here d.above := by
  rw [find, if_pos hpath, not_isAbsolute hname hparts, hparts]
  rfl

/-- `find` of a name in the working folder is a look-up in its entries. -/
theorem find_name (d : Disk) (hpath : isPath path = true) (hparts : parts path = [name])
    (hname : IsName name) :
    d.find path =
      match Table.get? d.entries name with
      | none => .error .missing
      | some node => .ok node := by
  rw [d.find_eq_walk hpath hname hparts, here, walk_name hname]
  cases Table.get? d.entries name <;> rfl

/-- `find` of a name in a folder of the working folder is two look-ups. -/
theorem find_inner (d : Disk) (hpath : isPath path = true) (hparts : parts path = [folder, name])
    (hfolder : IsName folder) (hname : IsName name) :
    d.find path =
      match Table.get? d.entries folder with
      | none => .error .missing
      | some (.file _) => .error .notFolder
      | some (.folder inner) =>
        match Table.get? inner name with
        | none => .error .missing
        | some node => .ok node := by
  rw [d.find_eq_walk hpath hfolder hparts, here, walk_name hfolder]
  -- the folder is missing, is a file, or is there
  rcases Table.get? d.entries folder with _ | (_ | inner)
  · rfl
  · rfl
  · simp only [walk_name hname]
    cases Table.get? inner name <;> rfl

/-- `read` finds a file in a folder only if the disk `has` the folder. -/
theorem has_of_read {d : Disk} {content : List UInt8} (hpath : isPath folder = true)
    (hfolder : parts folder = [folder]) (hname : IsName folder)
    (hparts : parts path = [folder, name]) (h : d.read path = .ok content) :
    d.has folder = true := by
  rw [has, d.find_name hpath hfolder hname]
  cases hget : Table.get? d.entries folder with
  | some node => rfl
  | none =>
    -- there is no way through a name that is not there
    have hmissing : d.find path = .error .missing := by
      rw [find, not_isAbsolute hname hparts, hparts, here, walk_name hname, hget]
      exact ite_self _
    rw [read, hmissing] at h
    cases h

/-- A file can be read as the text `cs` exactly if its bytes are the `encode` of `cs`. -/
theorem read_decode_iff {d : Disk} {cs : List Char} :
    (∃ bs, d.read path = .ok bs ∧ Text.Utf8.decode bs = .ok cs) ↔
      d.find path = .ok (.file (Text.Utf8.encode cs)) := by
  simp only [Text.Utf8.decode_eq_ok_iff, exists_eq_right, read]
  -- only a file can be read: not what is missing, and not a folder
  rcases d.find path with failure | (content | entries)
  · exact ⟨nofun, nofun⟩
  · simp only [Except.ok.injEq, Node.file.injEq]
  · exact ⟨nofun, nofun⟩

/-- `listing` arranges the names, and leaves none out. -/
theorem mem_listing {d : Disk} {entries : Table String Node} {file : String} :
    file ∈ d.listing entries ↔ file ∈ Table.names entries :=
  (d.order.perm _).mem_iff

theorem listing_singleton (d : Disk) (entry : String × Node) : d.listing [entry] = [entry.1] :=
  List.perm_singleton.1 (d.order.perm [entry.1])

/-- `write` puts a file into the working folder, unless a folder has its name. -/
theorem write_name (d : Disk) (content : List UInt8) (hparts : parts path = [name]) :
    d.write path content =
      match Table.get? d.entries name with
      | some (.folder _) => .error .isFolder
      | _ => .ok { d with entries := Table.put d.entries name (.file content) } := by
  rw [write, hparts, here, writeAt]
  rcases Table.get? d.entries name with _ | (_ | _) <;> rfl

/-- `write` puts a file into a folder of the working folder, unless a folder has its name. -/
theorem write_inner (d : Disk) (content : List UInt8) (hparts : parts path = [folder, name]) :
    d.write path content =
      match Table.get? d.entries folder with
      | none => .error .missing
      | some (.file _) => .error .notFolder
      | some (.folder inner) =>
        match Table.get? inner name with
        | some (.folder _) => .error .isFolder
        | _ =>
          .ok { d with
            entries :=
              Table.put d.entries folder (.folder (Table.put inner name (.file content))) } := by
  rw [write, hparts, here, writeAt]
  -- the folder is missing, is a file, or is there; then the name in it decides
  rcases Table.get? d.entries folder with _ | (_ | inner)
  · rfl
  · rfl
  · simp only [writeAt]
    rcases Table.get? inner name with _ | (_ | _) <;> rfl
  · exact List.cons_ne_nil _ _

end Disk

end Gamebook

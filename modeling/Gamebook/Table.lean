/-!
# Ordered tables

A table maps names to values and keeps the order in which the names first came. Objects of JSON,
folders and the loaded language packs are tables.
-/

namespace Gamebook

/-- A table from names to values, in order. -/
abbrev Table (α β : Type) := List (α × β)

namespace Table

variable {α β : Type} [DecidableEq α]

/-- The value of a name. -/
def get? : Table α β → α → Option β
  | [], _ => none
  | (n, v) :: t, name => if n = name then some v else get? t name

/-- Sets the value of a name: in place if the name is there, at the end if not. -/
def put : Table α β → α → β → Table α β
  | [], name, value => [(name, value)]
  | (n, v) :: t, name, value =>
    if n = name then (n, value) :: t else (n, v) :: put t name value

/-- The table without a name. -/
def erase (t : Table α β) (name : α) : Table α β := t.filter fun entry => decide (entry.1 ≠ name)

/-- The names, in order. -/
def names (t : Table α β) : List α := t.map (·.1)

/-- A table answers with what was put in last, and otherwise as before. -/
theorem get?_put (t : Table α β) (name other : α) (value : β) :
    get? (put t name value) other = if name = other then some value else get? t other := by
  induction t with
  | nil => rfl
  | cons entry t ih =>
    obtain ⟨n, v⟩ := entry
    by_cases hn : n = name
    · subst hn
      by_cases h : n = other <;> simp [put, get?, h]
    · by_cases h : n = other
      · subst h
        simp [put, get?, hn, Ne.symm hn]
      · simp [put, get?, hn, h, ih]

theorem get?_put_self (t : Table α β) (name : α) (value : β) :
    get? (put t name value) name = some value := by
  rw [get?_put, if_pos rfl]

/-- A new name comes to the end. -/
theorem put_of_not_mem {t : Table α β} {name : α} (h : name ∉ names t) (value : β) :
    put t name value = t ++ [(name, value)] := by
  induction t with
  | nil => rfl
  | cons entry t ih =>
    obtain ⟨n, v⟩ := entry
    simp only [names, List.map_cons, List.mem_cons, not_or] at h
    rw [put, if_neg (Ne.symm h.1), ih h.2, List.cons_append]

/-- Setting a value keeps the names there were, in their order. -/
theorem names_put (t : Table α β) (name : α) (value : β) :
    names (put t name value) = if name ∈ names t then names t else names t ++ [name] := by
  induction t with
  | nil => simp [put, names]
  | cons entry t ih =>
    obtain ⟨n, v⟩ := entry
    unfold names at ih
    by_cases hn : n = name
    · simp [put, names, hn]
    · have hne : ¬ name = n := fun h => hn h.symm
      simp only [put, hn, if_false, names, List.map_cons, ih, List.mem_cons, hne, false_or]
      split <;> simp

end Table

end Gamebook

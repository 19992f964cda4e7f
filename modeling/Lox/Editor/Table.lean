/-!
# Tables

Values that are kept under names, each name once.

## Main definitions

* `Table`: the values with their names
* `Table.find?`, `Table.insert`, `Table.erase`: the value of a name, and its changes
* `Table.names`: the names

## Main results

* `Table.find?_insert_self`, `Table.find?_insert_of_ne`, `Table.find?_erase`: the values after a
  change
* `Table.mem_names_iff`: the names are those that have a value
-/

namespace Lox

/-- Values under names, the latest one first. -/
structure Table (α : Type) where
  entries : List (String × α) := []
deriving Repr

namespace Table

variable {α : Type} (table : Table α)

/-- The value of a name. -/
def find? (name : String) : Option α :=
  (table.entries.find? (·.1 = name)).map (·.2)

/-- The table without a name. -/
def erase (name : String) : Table α where
  entries := table.entries.filter (·.1 ≠ name)

/-- The table with a value in place of any other of the same name. -/
def insert (name : String) (value : α) : Table α where
  entries := (name, value) :: (table.erase name).entries

/-- The names that have a value. -/
def names : List String :=
  table.entries.map (·.1)

theorem find?_erase (name other : String) :
    (table.erase name).find? other = if other = name then none else table.find? other := by
  simp only [find?, erase, List.find?_filter]
  split
  · next h =>
    subst h
    simp
  · next h =>
    congr 2
    funext entry
    by_cases same : entry.1 = other <;> simp [same, h]

@[simp] theorem find?_insert_self (name : String) (value : α) :
    (table.insert name value).find? name = some value := by
  simp [find?, insert]

theorem find?_insert_of_ne {name other : String} (h : other ≠ name) (value : α) :
    (table.insert name value).find? other = table.find? other := by
  have step : (table.insert name value).find? other = (table.erase name).find? other := by
    simp [find?, insert, Ne.symm h]
  rw [step, find?_erase, if_neg h]

/-- A name is in the table if and only if it has a value. -/
theorem mem_names_iff {name : String} : name ∈ table.names ↔ (table.find? name).isSome := by
  simp [names, find?, Option.isSome_map, List.find?_isSome]

theorem nodup_names_erase (h : table.names.Nodup) (name : String) :
    (table.erase name).names.Nodup :=
  h.sublist (List.filter_sublist.map _)

theorem nodup_names_insert (h : table.names.Nodup) (name : String) (value : α) :
    (table.insert name value).names.Nodup := by
  show (name :: (table.erase name).names).Nodup
  refine List.nodup_cons.mpr ⟨?_, table.nodup_names_erase h name⟩
  rw [mem_names_iff, find?_erase, if_pos rfl]
  simp

end Table

end Lox

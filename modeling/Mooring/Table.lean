/-! A finite table from keys to values. Each key has at most one row, and the lemmas below say
what `set` and `erase` do to the one view that the rest of the library uses, `get?`. -/

namespace Mooring

structure Table (κ α : Type) where
  rows : List (κ × α) := []

namespace Table
variable {κ α : Type} [DecidableEq κ]

def empty : Table κ α := ⟨[]⟩

def get? (table : Table κ α) (key : κ) : Option α :=
  (table.rows.find? (fun row => decide (row.1 = key))).map Prod.snd

def contains (table : Table κ α) (key : κ) : Bool := (table.get? key).isSome

def erase (table : Table κ α) (key : κ) : Table κ α :=
  ⟨table.rows.filter (fun row => decide (row.1 ≠ key))⟩

def set (table : Table κ α) (key : κ) (value : α) : Table κ α :=
  ⟨(key, value) :: (table.erase key).rows⟩

def keys (table : Table κ α) : List κ := table.rows.map Prod.fst

/-- Changes the value of a key that has one. -/
def modify (table : Table κ α) (key : κ) (change : α → α) : Table κ α :=
  match table.get? key with
  | some value => table.set key (change value)
  | none => table

def ofList (rows : List (κ × α)) : Table κ α :=
  rows.foldl (fun table row => table.set row.1 row.2) empty

theorem get?_erase_self (table : Table κ α) (key : κ) : (table.erase key).get? key = none := by
  simp [get?, erase, List.find?_filter]

theorem get?_erase_of_ne (table : Table κ α) {key other : κ} (h : other ≠ key) :
    (table.erase key).get? other = table.get? other := by
  simp only [get?, erase, List.find?_filter]
  congr 2
  funext row
  by_cases same : row.1 = other <;> simp [same, h]

theorem get?_set_self (table : Table κ α) (key : κ) (value : α) :
    (table.set key value).get? key = some value := by
  simp [get?, set]

theorem get?_set_of_ne (table : Table κ α) {key other : κ} (value : α) (h : other ≠ key) :
    (table.set key value).get? other = table.get? other := by
  rw [← get?_erase_of_ne table h]
  simp [get?, set, Ne.symm h]

end Table
end Mooring

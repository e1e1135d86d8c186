/-!
# Association lists

Small tables from names to things, in the order in which the names came. A name occurs once; setting it
again keeps its place.
-/

namespace ModelStore

abbrev Association (α : Type) := List (String × α)

namespace Association

variable {α : Type}

/-- What is under a name. -/
def get? (table : Association α) (name : String) : Option α :=
  (table.find? fun entry => entry.1 == name).map (·.2)

/-- The table with something set under a name. -/
def set (table : Association α) (name : String) (x : α) : Association α :=
  match table with
  | [] => [(name, x)]
  | entry :: rest => if entry.1 == name then (name, x) :: rest else entry :: set rest name x

/-- A table from entries of which some may have one name: the first gives its place, the last what is under
it. -/
def ofEntries (entries : List (String × α)) : Association α :=
  entries.foldl (fun table entry => table.set entry.1 entry.2) []

/-- The table without a name. -/
def erase (table : Association α) (name : String) : Association α :=
  table.filter fun entry => entry.1 != name

theorem get?_set_self (table : Association α) (name : String) (x : α) :
    (table.set name x).get? name = some x := by
  induction table with
  | nil => simp [set, get?]
  | cons entry rest ih =>
    by_cases h : entry.1 = name
    · simp [set, get?, h]
    · simpa [set, get?, h] using ih

theorem get?_set_of_ne (table : Association α) {name other : String} (x : α) (hne : other ≠ name) :
    (table.set name x).get? other = table.get? other := by
  induction table with
  | nil => simp [set, get?, Ne.symm hne]
  | cons entry rest ih =>
    by_cases h : entry.1 = name
    · simp [set, get?, h, Ne.symm hne]
    · by_cases ho : entry.1 = other
      · simp [set, get?, ho, hne]
      · simpa [set, get?, h, ho] using ih

theorem get?_erase_self (table : Association α) (name : String) : (table.erase name).get? name = none := by
  simp [erase, get?, List.find?_eq_none]

theorem get?_erase_of_ne (table : Association α) {name other : String} (hne : other ≠ name) :
    (table.erase name).get? other = table.get? other := by
  induction table with
  | nil => rfl
  | cons entry rest ih =>
    by_cases h : entry.1 = name
    · have ho : entry.1 ≠ other := fun e => hne (e ▸ h)
      simpa [erase, get?, h, Ne.symm hne] using ih
    · by_cases ho : entry.1 = other
      · simp [erase, get?, ho, hne]
      · simpa [erase, get?, h, ho] using ih

theorem get?_of_erase {table : Association α} {name other : String} {x : α}
    (h : (table.erase name).get? other = some x) : table.get? other = some x := by
  by_cases hname : other = name
  · subst hname
    rw [get?_erase_self] at h
    cases h
  · rwa [get?_erase_of_ne _ hname] at h

end Association
end ModelStore

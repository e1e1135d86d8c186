import ModelStore.Write.Binding

/-!
# Columns to update

The columns that an update sets, each with a placeholder for its value, in the order given. `Update.build`
says what is written and bound for them; `Update.compile` does the writing and the binding, one column after
the other, on a list of arguments that others have bound some of already.
-/

namespace ModelStore.Update

/-- One column and its placeholder. -/
def assignment (bound index : Nat) (column : Value) : Sql :=
  [.name column.plain, .blank, .mark .equal, .blank, .placeholder (bound + index + 1)]

/-- A column is counted from the one before it. -/
theorem assignment_succ (bound index : Nat) (column : Value) :
    assignment bound (index + 1) column = assignment (bound + 1) index column := by
  rw [assignment, assignment, Nat.add_right_comm bound 1 index, Nat.add_assoc bound index 1]

/-- The assignments of the columns, after `bound` arguments. -/
def assignments (bound : Nat) (record : Record) : Sql :=
  Sql.listed (record.mapIdx fun i entry => assignment bound i entry.1)

/-- The values of the columns. -/
def cells (model : Model) (record : Record) : List (Except Fault Value) :=
  record.map fun entry => model.serialize entry.1 entry.2

/-- The assignments of an update after `bound` arguments; no columns give no assignment. -/
def build (model : Model) (bound : Nat) (record : Record) : Bound Sql :=
  .ofCells (cells model record) (assignments bound record)

/-! ## Binding as one goes -/

/-- Binds the value of a column and writes its assignment. -/
def writeColumn (model : Model) (entry : Value × Value) : Binding Sql := do
  return [.name entry.1.plain, .blank, .mark .equal, .blank]
    ++ (← writeCell (model.serialize entry.1 entry.2))

/-- Compiles a record to the assignments of an update. -/
def compile (model : Model) (record : Record) : Binding Sql := do
  return Sql.listed (← record.mapM (writeColumn model))

end ModelStore.Update

import ModelStore.Value.Order
import ModelStore.Write.Binding

/-!
# Rows to insert

Several rows are inserted by one statement, so they have to share their columns: the same set of them,
in whatever order. The first row's order is the statement's. A single row may be without columns (storage
then fills in all of them); several rows may not.

`Insert.columnsOf` settles the columns and refuses rows that do not share them; `Insert.build` says what is
written and bound for the values, row by row. `Insert.compile` does the writing and the binding, one value
after the other, on a list of arguments that others have bound some of already.
-/

namespace ModelStore.Insert

/-- Whether two runs of columns are the same set. -/
def sameSet (vs ws : List Value) : Bool :=
  vs.all (fun v => v.isAmong ws) && ws.all (fun w => w.isAmong vs)

/-- Refuses a row whose columns are not the given ones. -/
def requireColumns (columns : List Value) (row : Value) : Except Fault Unit := do
  let other ← row.items
  if !Value.areKeys other || !Value.areKeys columns then .error (.misused .kind)
  else if sameSet other columns then .ok ()
  else .error (.refused (.unequalColumns (← Value.inOrder columns) (← Value.inOrder other)))

/-- The rows after the first. Only a run of rows has any. -/
def laterRows : Value → Except Fault (List Value)
  | .map _ => .error (.misused .kind)
  | rows => do .ok ((← rows.items).drop 1)

/-- The columns that all rows share, in the order of the first row. -/
def columnsOf (rows : Value) : Except Fault (List Value) := do
  if !rows.holds then .error (.refused .insertWithoutRows)
  else
    let columns ← (← rows.at? (.int 0)).items
    let later ← laterRows rows
    later.forM (requireColumns columns)
    if columns.isEmpty && !later.isEmpty then .error (.refused .rowsWithoutColumns) else .ok columns

/-- The values of a row, in the order of the columns. -/
def cells (model : Model) (columns : List Value) (row : Value) : List (Except Fault Value) :=
  columns.map fun column => do model.serialize column (← row.at? column)

/-- The values of the row that gave the columns. A mapping's are those of its entries, one by one, so that
a column that is not even equal to itself has its value too. -/
def firstCells (model : Model) (columns : List Value) : Value → List (Except Fault Value)
  | .map es => es.map fun entry => model.serialize entry.1 entry.2
  | row => cells model columns row

/-- The values of all rows, in order. -/
def allCells (model : Model) (columns : List Value) : List Value → List (Except Fault Value)
  | [] => []
  | first :: later => firstCells model columns first ++ later.flatMap (cells model columns)

/-- The columns between parentheses. -/
def columnsSql (columns : List Value) : Sql :=
  Sql.parenthesized (Sql.listed (columns.map fun column => [.name column.plain]))

/-- A row's placeholders between parentheses. -/
def rowSql (bound width : Nat) : Sql := Sql.parenthesized (Sql.listed (Sql.placeholders bound width))

/-- `count` rows of placeholders. -/
def valuesSql (bound width count : Nat) : Sql :=
  Sql.listed ((List.range count).map fun i => rowSql (bound + i * width) width)

/-- The rows after the first are counted from where it ends. -/
theorem map_rowSql_succ (bound width count : Nat) :
    (List.range (count + 1)).map (fun i => rowSql (bound + i * width) width)
      = rowSql bound width :: (List.range count).map fun i => rowSql (bound + width + i * width) width := by
  simp only [List.range_succ_eq_map, List.map_cons, List.map_map, Nat.zero_mul, Nat.add_zero]
  congr 1
  refine List.map_congr_left ?_
  intro i _
  simp only [Function.comp_apply, Nat.succ_mul]
  congr 1
  omega

/-- Columns and values of an insertion; both are empty for one row without columns. -/
structure Parts where
  columns : Sql
  values : Sql

/-- Columns and values of an insertion after `bound` arguments. -/
def build (model : Model) (bound : Nat) (rows : Value) : Bound Parts :=
  match columnsOf rows, rows.items with
  | .error fault, _ => .unbound (.error fault)
  | .ok _, .error fault => .unbound (.error fault)
  | .ok columns, .ok rows =>
    if columns.isEmpty then .unbound (.ok ⟨[], []⟩)
    else .ofCells (allCells model columns rows)
      ⟨columnsSql columns, valuesSql bound columns.length rows.length⟩

/-! ## Binding as one goes -/

/-- The values of all rows, row by row. -/
def rowCells (model : Model) (columns : List Value) : List Value → List (List (Except Fault Value))
  | [] => []
  | first :: later => firstCells model columns first :: later.map (cells model columns)

theorem flatten_rowCells (model : Model) (columns rows : List Value) :
    (rowCells model columns rows).flatten = allCells model columns rows := by
  cases rows with
  | nil => rfl
  | cons first later => rw [rowCells, allCells, List.flatten_cons, List.flatMap_def]

/-- Binds the values of a row and writes its placeholders between parentheses. -/
def writeRow (cells : List (Except Fault Value)) : Binding Sql := do
  return Sql.parenthesized (Sql.listed (← cells.mapM writeCell))

/-- Compiles rows to the columns and values of an insertion. -/
def compile (model : Model) (rows : Value) : Binding Parts := do
  let columns ← columnsOf rows
  let items ← rows.items
  if columns.isEmpty then return ⟨[], []⟩
  else
    let tuples ← (rowCells model columns items).mapM writeRow
    return ⟨columnsSql columns, Sql.listed tuples⟩

end ModelStore.Insert

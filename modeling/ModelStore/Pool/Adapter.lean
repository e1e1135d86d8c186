import ModelStore.Pool.RowCount
import ModelStore.Storage.Rows

/-!
# The driver's answers

A statement goes to the driver in two moves: it is prepared, and its rows are fetched for its arguments.
What the driver answers is read as an outcome: each record as a row, and the number of rows touched from
the command tag, or else from the rows there are. An error of the database
server becomes an error of the storage engine, with the server's code, at either move.
-/

namespace ModelStore.Adapter

/-- What is seen of a statement going to the driver. -/
inductive Move
  | prepared (sql : String)
  | fetched (arguments : List Value)
  deriving Repr

/-- What the driver answers. -/
structure Answers where
  preparing : Option Fault
  fetching : Option Fault
  records : Value
  tag : Option String

/-- An error as the engine's. -/
def engineFault : Fault → Fault
  | .server message sqlstate =>
    .because (.engine ⟨message, some sqlstate, none, none⟩) (.server message sqlstate)
  | fault => fault

/-- The driver's records as an outcome. -/
def outcome (records : Value) (tag : Option String) : Except Fault Outcome := do
  let rows ← (← records.items).mapM Value.entries
  let count ← rowCountOf? tag
  Outcome.ofRows (.list (rows.map .map)) (if count = 0 then rows.length else count)

/-- Sends a statement to the driver. -/
def execute (sql : String) (arguments : Value) (answers : Answers) : Except Fault Outcome × List Move :=
  match answers.preparing with
  | some fault => (.error (engineFault fault), [.prepared sql])
  | none => match arguments.items with
    | .error fault => (.error fault, [.prepared sql])
    | .ok arguments => match answers.fetching with
      | some fault => (.error (engineFault fault), [.prepared sql, .fetched arguments])
      | none => (outcome answers.records answers.tag, [.prepared sql, .fetched arguments])

end ModelStore.Adapter

import ModelStore.Schema.Model
import ModelStore.Sql.Arguments

/-!
# Binding the values of columns

The values of a statement that writes are bound one after the other, each in the form its attribute asks
for. One of them may have no such form; then the statement is not built, and the values bound until then
are all that is left of it. So what is bound is kept apart from whether it went well: `bindUntil` gives
the values before the first failure, and the failure.
-/

namespace ModelStore

/-- The value of a column in the form in which it is bound. Columns without an attribute are bound as
they are, and so is the pending time. -/
def Model.serialize (model : Model) (column value : Value) : Except Fault Value :=
  if value.isPending then .ok value
  else match model.attribute? column with
    | none => .ok value
    | some a => a.serialize value

/-- The values up to the first failure, and that failure. -/
def bindUntil : List (Except Fault Value) → List Value × Option Fault
  | [] => ([], none)
  | .ok v :: rest => let (bound, failure) := bindUntil rest; (v :: bound, failure)
  | .error fault :: _ => ([], some fault)

/-- Values that can all be bound are bound, all of them. -/
theorem bindUntil_map_ok (vs : List Value) : bindUntil (vs.map .ok) = (vs, none) := by
  induction vs with
  | nil => rfl
  | cons v rest ih => rw [List.map_cons, bindUntil, ih]

/-- What was built, with the values it binds. If it could not be built, the values are those bound until
then. -/
structure Bound (α : Type) where
  arguments : List Value
  outcome : Except Fault α

namespace Bound

/-- Nothing was bound. -/
def unbound {α : Type} (outcome : Except Fault α) : Bound α := ⟨[], outcome⟩

/-- The given thing, if all values can be bound. -/
def ofCells {α : Type} (cells : List (Except Fault Value)) (built : α) : Bound α :=
  match bindUntil cells with
  | (arguments, none) => ⟨arguments, .ok built⟩
  | (arguments, some fault) => ⟨arguments, .error fault⟩

end Bound

/-- Binds the value of a cell, if it has one. -/
def writeCell (cell : Except Fault Value) : Binding Sql := do Binding.value (← cell)

end ModelStore

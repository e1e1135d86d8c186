import ModelStore.Fault
import ModelStore.Sql

/-!
# Binding as one goes

The arguments of a statement are one list, and whoever writes a part of the statement goes on with it: a
value is bound behind those that others have bound already, and the placeholder that is written for it is
the number of the place that it got. What was bound before a failure stays bound.
-/

namespace ModelStore

/-- What is put together while arguments are bound. What was bound before a failure stays bound. -/
abbrev Binding (α : Type) := ExceptT Fault (StateM (List Value)) α

namespace Binding

variable {α β : Type}

/-- The outcome behind some arguments, and the arguments that are bound then. -/
def result (binding : Binding α) (arguments : List Value) : Except Fault α × List Value :=
  binding.run.run arguments

/-- Binds a value; gives the placeholder that stands for it. -/
def value (v : Value) : Binding Sql := do
  modify fun arguments => arguments ++ [v]
  return [.placeholder (← get).length]

/-! ## Laws -/

theorem result_bind (b : Binding α) (next : α → Binding β) (arguments : List Value) :
    (b >>= next).result arguments = match b.result arguments with
      | (.ok x, arguments) => (next x).result arguments
      | (.error fault, arguments) => (.error fault, arguments) := by
  show (ExceptT.bindCont next (b.result arguments).1).run (b.result arguments).2 = _
  cases h : b.result arguments with
  | mk outcome arguments => cases outcome <;> rfl

theorem result_ok (x : α) (arguments : List Value) :
    (pure x : Binding α).result arguments = (.ok x, arguments) := rfl

theorem result_lift (outcome : Except Fault α) (arguments : List Value) :
    (liftM outcome : Binding α).result arguments = (outcome, arguments) := by
  cases outcome <;> rfl

theorem result_value (v : Value) (arguments : List Value) :
    (value v).result arguments = (.ok [.placeholder (arguments.length + 1)], arguments ++ [v]) := by
  show (Except.ok [Sql.Token.placeholder (arguments ++ [v]).length], arguments ++ [v]) = _
  rw [List.length_append, List.length_singleton]

end Binding
end ModelStore

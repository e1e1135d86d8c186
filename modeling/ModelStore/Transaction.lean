import ModelStore.Storage.Lease

/-!
# Transactions

A unit of work runs on one leased connection between `BEGIN` and `COMMIT`. If it fails, or `COMMIT` does,
`ROLLBACK` is sent once, and the failure stands whether or not that succeeds; only a rollback that is
itself called off replaces it. If `BEGIN` fails there is nothing to roll back. In every case the
connection is given back at the end.

A transaction is made of `Transaction.opening` and `Transaction.closing`, with the unit of work between
them; `Transaction.run` puts the three together.
-/

namespace ModelStore.Transaction

open Dialogue

variable {α : Type}

/-- A statement without arguments whose answer does not matter. -/
def command (c : Connection) (sql : String) : Dialogue Unit :=
  (request (.execute c sql [])).andThen fun _ => ok ()

/-- Takes back what was done, for the given failure. -/
def rollingBack (c : Connection) (fault : Fault) : Dialogue α :=
  (command c "ROLLBACK").afterwards fun
    | .ok _ => fail fault
    | .error failed => fail (if failed.isOrdinary then fault else failed)

/-- Makes what was done last, or takes it back if that fails. -/
def committing (c : Connection) (result : α) : Dialogue α :=
  (command c "COMMIT").afterwards fun
    | .ok _ => ok result
    | .error fault => rollingBack c fault

/-- Leases a connection and begins a transaction on it. -/
def opening : Dialogue Connection :=
  (request .pool).andThen fun _ =>
    (request .acquire).andThen fun (c : Connection) =>
      (command c "BEGIN").afterwards fun
        | .ok _ => ok c
        | .error fault => releasing c (.error fault)

/-- Ends a transaction with the outcome of its unit of work, and the lease with it. -/
def closing (c : Connection) (outcome : Except Fault α) : Dialogue α :=
  (match outcome with
    | .ok result => committing c result
    | .error fault => rollingBack c fault).afterwards (releasing c)

/-- Runs a unit of work in a transaction. -/
def run (work : Connection → Dialogue α) : Dialogue α :=
  opening.andThen fun c => (work c).afterwards (closing c)

end ModelStore.Transaction

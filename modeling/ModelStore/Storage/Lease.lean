import ModelStore.Storage.Dialogue

/-!
# Leases

A lease is the time between getting a connection and giving it back. Whatever is done with a connection
inside a lease, the lease ends with giving it back, exactly once, on success and on failure alike. A
connection that belongs to someone else is used as it is, neither acquired nor released.

If giving it back fails, that failure is the outcome, in the place of whatever came before it.
-/

namespace ModelStore

namespace Dialogue

variable {α : Type}

/-- Gives a connection back, with the outcome of what was done with it. -/
def releasing (c : Connection) (outcome : Except Fault α) : Dialogue α :=
  (request (.release c)).afterwards fun
    | .ok _ => done outcome
    | .error fault => fail fault

/-- Does something with a leased connection. -/
def leased (body : Connection → Dialogue α) : Dialogue α :=
  (request .acquire).andThen fun (c : Connection) => (body c).afterwards (releasing c)

/-- Does something with the given connection, or else with one leased from the pool. -/
def onConnection (bound : Option Connection) (body : Connection → Dialogue α) : Dialogue α :=
  match bound with
  | some c => body c
  | none => (request .pool).andThen fun _ => leased body

end Dialogue
end ModelStore

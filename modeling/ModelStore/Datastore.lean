import ModelStore.Pool.Registry
import ModelStore.Schema.Model

/-!
# Datastores

A datastore is what a program works with: its models, and the pool that their statements go to. The pool
is given when the store is made, or else it is looked up by name when it is first needed. A store that
has looked its pool up holds on to it: what is registered under the name later is no concern of the
store's any more.

Looking up takes time (`Pools.call`), and several statements may need the pool before it is there. Each
of them then waits for itself, and the store holds what the last of them to go on was served.
-/

namespace ModelStore

structure Datastore where
  registry : Registry
  /-- The name under which the pool is looked up. -/
  connectionName : String
  /-- The pool, as soon as there is one. -/
  pool : Option Pool
  deriving Inhabited

namespace Datastore

/-- The name that stands for the one not given. -/
def defaultName : String := "default"

/-- A store of the models of some documents. A store calls its models by their names, which therefore have
to be texts; a registry as such takes names in bytes, too. -/
def ofDocuments (documents defaults : Value) (connectionName : String) (pool : Option Pool) :
    Except Fault Datastore := do
  let registry ← Registry.ofDocuments documents defaults
  if registry.models.any Model.inBytes then .error (.misused .kind)
  else .ok ⟨registry, connectionName, pool⟩

/-- The model of a name, without regard to case. -/
def model (store : Datastore) (name : Value) : Except Fault Model := store.registry.find name

/-! ## The pool -/

/-- A store holds on to the pool that a caller is served. -/
def hold (store : Datastore) : Pools.Standing → Datastore
  | .served (.ok pool) => { store with pool := some pool }
  | _ => store

/-- A caller asks for the store's pool. -/
def call (store : Datastore) (pools : Pools) : Datastore × Pools × Pools.Standing :=
  match store.pool with
  | some pool => (store, pools, .served (.ok pool))
  | none =>
    let (pools, standing) := pools.call store.connectionName
    (store.hold standing, pools, standing)

/-- A caller goes on that had to wait. -/
def resume (store : Datastore) (pools : Pools) (caller : Pools.Caller) :
    Datastore × Pools × Pools.Standing :=
  let (pools, standing) := pools.resume caller
  (store.hold standing, pools, standing)

/-- A store that has its pool serves it, and asks nobody. -/
theorem call_of_pool {store : Datastore} {pool : Pool} (h : store.pool = some pool) (pools : Pools) :
    store.call pools = (store, pools, .served (.ok pool)) := by
  simp [call, h]

end Datastore
end ModelStore

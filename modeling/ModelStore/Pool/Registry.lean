import ModelStore.Association
import ModelStore.Pool.Address
import ModelStore.Pool.Scheme

/-!
# Pools by name

Under a name a program registers a ready pool, the address of a database, or a function that gives one.
A pool for an address is created when it is first asked for, which takes time; callers who ask meanwhile
wait for the same creation. A function is called anew for every creation, and may give another address each
time, or fail. Registering a name again forgets what was created for it.

The registry is a small machine. Its steps are the moments between which nothing else can happen:

* `connect` registers something under a name;
* `call` is a caller's asking, which gives a pool or a refusal at once, or makes the caller wait;
* `begin` is the start of a creation, which may fail on the spot (a function that fails, an address of an
  unknown scheme);
* `finish` is its end, with a pool or a fault;
* `resume` is a waiting caller's going on, once the creation has ended;
* `abandon` is a waiting caller's being called off. The creation goes on without it.

A name is remembered to have a pool only if what is registered under it is still what the pool was made
from (`keep`), so a creation that ends too late is handed to those who waited for it and to no one else.
-/

namespace ModelStore

/-- A pool, by its label. -/
abbrev Pool := String

/-- What is registered. Two addresses, and two functions, are the same database only if they were registered
as the same object, whatever they say or give. A text says the same at all times, so it goes with its object;
what a function gives is known only when it is called. -/
inductive Database
  | ready (pool : Pool)
  | address (object : Nat) (text : String)
  | function (object : Nat)
  deriving DecidableEq, Repr, Inhabited

/-- What a value registers that is neither a pool nor a function: text is an address, all else is no
database. -/
def Database.ofValue (object : Nat) : Value → Except Fault Database
  | .text s => .ok (.address object s)
  | _ => .error (.refused .databaseShape)

/-- An address, if its scheme is one of the engine's. -/
def Address.accept (address : String) : Except Fault String :=
  ((scheme address).bind requireScheme).map fun _ => address

/-- How far a creation has come. -/
inductive Progress
  | waiting
  | opening
  | ended (outcome : Except Fault Pool)
  deriving Inhabited

/-- A creation of a pool, for a name and what was registered under it. -/
structure Creation where
  name : String
  database : Database
  progress : Progress
  deriving Inhabited

/-- What is seen of a creation: a function is called, a pool is opened. -/
inductive PoolEvent
  | called (object : Nat)
  | opened (driverText : String)
  deriving DecidableEq, Repr

structure Pools where
  databases : Association Database
  /-- Pools that are at hand. -/
  ready : Association Pool
  /-- The creations that callers may join, by name. -/
  current : Association Nat
  /-- All creations, in the order in which they were asked for. -/
  creations : List Creation
  deriving Inhabited

namespace Pools

/-- Nothing is registered. -/
def empty : Pools := ⟨[], [], [], []⟩

/-! ## Registering -/

/-- Registers something under a name, and forgets what was created for it. -/
def connect (pools : Pools) (name : String) (database : Database) : Pools :=
  { pools with
    databases := pools.databases.set name database
    ready := pools.ready.erase name
    current := pools.current.erase name }

theorem databases_connect (pools : Pools) (name : String) (database : Database) :
    (pools.connect name database).databases.get? name = some database :=
  Association.get?_set_self _ _ _

/-- What was created before is forgotten. -/
theorem ready_connect (pools : Pools) (name : String) (database : Database) :
    (pools.connect name database).ready.get? name = none :=
  Association.get?_erase_self _ _

/-- No creation begun before may be joined. -/
theorem current_connect (pools : Pools) (name : String) (database : Database) :
    (pools.connect name database).current.get? name = none :=
  Association.get?_erase_self _ _

/-- Remembers a pool, if what it was made from is still what is registered. -/
def keep (pools : Pools) (name : String) (database : Database) (pool : Pool) : Pools :=
  if pools.databases.get? name = some database then
    { pools with ready := pools.ready.set name pool }
  else pools

section

variable (pools : Pools) (name : String) (database : Database) (pool : Pool)

theorem databases_keep : (pools.keep name database pool).databases = pools.databases := by
  unfold keep
  split <;> rfl

theorem creations_keep : (pools.keep name database pool).creations = pools.creations := by
  unfold keep
  split <;> rfl

theorem current_keep : (pools.keep name database pool).current = pools.current := by
  unfold keep
  split <;> rfl

theorem ready_keep (h : pools.databases.get? name = some database) :
    (pools.keep name database pool).ready.get? name = some pool := by
  unfold keep
  rw [if_pos h]
  exact Association.get?_set_self _ _ _

/-- No pool at hand is lost. -/
theorem ready_keep_of_ready {other : String} (h : pools.ready.get? other ≠ none) :
    (pools.keep name database pool).ready.get? other ≠ none := by
  unfold keep
  split
  · by_cases hname : other = name
    · subst hname
      simp [Association.get?_set_self]
    · rwa [Association.get?_set_of_ne _ _ hname]
  · exact h

end

/-! ## Creations -/

/-- How far a creation has come. -/
def progress (pools : Pools) (id : Nat) : Progress :=
  match pools.creations[id]? with
  | some creation => creation.progress
  | none => .waiting

/-- Sets how far a creation has come. -/
def advance (pools : Pools) (id : Nat) (progress : Progress) : Pools :=
  { pools with creations := pools.creations.modify id fun c => { c with progress := progress } }

/-- The address that a creation opens, with what is seen of finding it. `given` is what a function gives that
is called now. -/
def Creation.address (creation : Creation) (given : Except Fault String) :
    Except Fault String × List PoolEvent :=
  match creation.database with
  | .ready pool => (.ok pool, [])
  | .address _ text => (.ok text, [])
  | .function object => (given, [.called object])

/-- Starts a creation: finds the address, and opens a pool if its scheme is one of the engine's. -/
def begin (pools : Pools) (id : Nat) (given : Except Fault String) : Pools × List PoolEvent :=
  match pools.creations[id]? with
  | some creation => match creation.progress with
    | .waiting =>
      let (address, events) := Creation.address creation given
      match address.bind Address.accept with
      | .ok address => (pools.advance id .opening, events ++ [.opened (Address.driverText address)])
      | .error fault => (pools.advance id (.ended (.error fault)), events)
    | _ => (pools, [])
  | none => (pools, [])

/-- Ends a creation that is opening a pool. -/
def finish (pools : Pools) (id : Nat) (outcome : Except Fault Pool) : Pools :=
  match pools.progress id with
  | .opening => pools.advance id (.ended outcome)
  | _ => pools

/-! ## Callers -/

/-- A caller waiting for a creation, with what was registered when it asked. -/
structure Caller where
  name : String
  database : Database
  creation : Nat
  deriving DecidableEq, Repr, Inhabited

/-- Where a caller stands. -/
inductive Standing
  | served (outcome : Except Fault Pool)
  | waits (caller : Caller)

/-- A creation that has ended is not to be joined any more. -/
def retire (pools : Pools) (caller : Caller) : Pools :=
  match pools.progress caller.creation with
  | .ended _ =>
    if pools.current.get? caller.name = some caller.creation then
      { pools with current := pools.current.erase caller.name }
    else pools
  | _ => pools

/-- A caller goes on if its creation has ended: with its pool, or with its fault. -/
def resume (pools : Pools) (caller : Caller) : Pools × Standing :=
  match pools.progress caller.creation with
  | .ended (.ok pool) =>
    ((pools.retire caller).keep caller.name caller.database pool, .served (.ok pool))
  | .ended (.error fault) => (pools.retire caller, .served (.error fault))
  | _ => (pools, .waits caller)

section

variable (pools : Pools) (caller : Caller)

theorem databases_retire : (pools.retire caller).databases = pools.databases := by
  unfold retire
  split
  · split <;> rfl
  · rfl

theorem creations_retire : (pools.retire caller).creations = pools.creations := by
  unfold retire
  split
  · split <;> rfl
  · rfl

theorem ready_retire : (pools.retire caller).ready = pools.ready := by
  unfold retire
  split
  · split <;> rfl
  · rfl

/-- The creation that a caller waited for is all that goes. -/
theorem current_retire_of_ne {name : String} (h : pools.current.get? name ≠ some caller.creation) :
    (pools.retire caller).current.get? name = pools.current.get? name := by
  unfold retire
  split
  · split
    case isTrue hcurrent =>
      have hne : name ≠ caller.name := by
        rintro rfl
        exact h hcurrent
      exact Association.get?_erase_of_ne _ hne
    case isFalse => rfl
  · rfl

theorem current_retire_ne {outcome : Except Fault Pool} (h : pools.progress caller.creation = .ended outcome) :
    (pools.retire caller).current.get? caller.name ≠ some caller.creation := by
  unfold retire
  rw [h]
  dsimp only
  split
  case isTrue =>
    rw [Association.get?_erase_self]
    simp
  case isFalse hcurrent => exact hcurrent

theorem current_of_retire {name : String} {id : Nat}
    (h : (pools.retire caller).current.get? name = some id) : pools.current.get? name = some id := by
  unfold retire at h
  split at h
  · split at h
    · exact Association.get?_of_erase h
    · exact h
  · exact h

theorem resume_of_ended {outcome : Except Fault Pool} (h : pools.progress caller.creation = .ended outcome) :
    (pools.resume caller).2 = .served outcome := by
  unfold resume
  rw [h]
  cases outcome with
  | ok pool => rfl
  | error fault => rfl

theorem resume_of_not_ended (h : ∀ outcome, pools.progress caller.creation ≠ .ended outcome) :
    pools.resume caller = (pools, .waits caller) := by
  unfold resume
  split
  · exact absurd (by assumption) (h _)
  · exact absurd (by assumption) (h _)
  · rfl

theorem databases_resume : (pools.resume caller).1.databases = pools.databases := by
  unfold resume
  split
  · rw [databases_keep, databases_retire]
  · exact databases_retire _ _
  · rfl

theorem creations_resume : (pools.resume caller).1.creations = pools.creations := by
  unfold resume
  split
  · rw [creations_keep, creations_retire]
  · exact creations_retire _ _
  · rfl

theorem current_resume {outcome : Except Fault Pool} (h : pools.progress caller.creation = .ended outcome) :
    (pools.resume caller).1.current = (pools.retire caller).current := by
  unfold resume
  rw [h]
  cases outcome with
  | ok pool => exact current_keep _ _ _ _
  | error fault => rfl

theorem ready_resume_of_ready {name : String} (h : pools.ready.get? name ≠ none) :
    (pools.resume caller).1.ready.get? name ≠ none := by
  unfold resume
  split
  · exact ready_keep_of_ready _ _ _ _ (by rwa [ready_retire])
  · rwa [ready_retire]
  · exact h

/-- A caller who gets a pool leaves it at hand, if the name has not been registered again. -/
theorem ready_resume {pool : Pool} (h : pools.progress caller.creation = .ended (.ok pool))
    (hd : pools.databases.get? caller.name = some caller.database) :
    (pools.resume caller).1.ready.get? caller.name = some pool := by
  unfold resume
  rw [h]
  exact ready_keep _ _ _ _ (by rwa [databases_retire])

end

/-- A waiting caller is called off. -/
def abandon (pools : Pools) (caller : Caller) : Pools × Standing :=
  (pools.retire caller, .served (.error .abandoned))

/-- A caller joins the creation that is under way for a name, or asks for a new one. -/
def join (pools : Pools) (name : String) (database : Database) : Pools × Caller :=
  match pools.current.get? name with
  | some id => (pools, ⟨name, database, id⟩)
  | none =>
    let id := pools.creations.length
    ({ pools with
        current := pools.current.set name id
        creations := pools.creations ++ [⟨name, database, .waiting⟩] }, ⟨name, database, id⟩)

/-- A caller asks for the pool of a name. -/
def call (pools : Pools) (name : String) : Pools × Standing :=
  match pools.ready.get? name with
  | some pool => (pools, .served (.ok pool))
  | none => match pools.databases.get? name with
    | none => (pools, .served (.error (Fault.noConnection name)))
    | some (.ready pool) => (pools.keep name (.ready pool) pool, .served (.ok pool))
    | some database =>
      let (pools, caller) := pools.join name database
      pools.resume caller

end Pools
end ModelStore

import ModelStore.Fault
import ModelStore.Value.Equality

/-!
# Dialogues with storage

What this library does with storage is a *dialogue*: it asks for one thing, waits for the reply, and goes
on according to it. A dialogue is data: a finite tree with one branch for every reply, error replies
included. Nothing in it depends on what storage is; a storage is any function that answers requests.

Keeping the tree apart from the storage that answers it is what makes the order of events a matter of
definition. `Dialogue.run` answers all requests from one storage and records what storage saw, and
`Dialogue.step` answers a single one, so that several dialogues can take turns.
-/

namespace ModelStore

/-- A connection, by its label. -/
abbrev Connection := String

/-- What storage answers to a statement: the rows, and how many rows were touched. -/
structure Outcome where
  rows : List Record
  rowCount : Int
  deriving Repr, Inhabited

/-- No rows at all. -/
def Outcome.empty : Outcome := ⟨[], 0⟩

/-! ## Requests -/

inductive Request
  /-- The time now, in milliseconds. -/
  | clock
  /-- The pool that connections come from. -/
  | pool
  | acquire
  | execute (connection : Connection) (sql : String) (arguments : List Value)
  | release (connection : Connection)
  deriving Repr

/-- The kind of reply that a request gets when it succeeds. -/
abbrev Request.Reply : Request → Type
  | clock => Int
  | pool => Unit
  | acquire => Connection
  | execute .. => Outcome
  | release _ => Unit

/-- What storage sees of a request and its reply. -/
inductive Exchange
  /-- A connection was handed out, or could not be. -/
  | acquired (connection : Option Connection)
  | executed (connection : Connection) (sql : String) (arguments : List Value)
  | released (connection : Connection)
  deriving Repr

/-- The trace that a request leaves: reading the clock and finding the pool leave none. -/
def Request.exchanges : (q : Request) → Except Fault q.Reply → List Exchange
  | clock, _ => []
  | pool, _ => []
  | acquire, .ok c => [.acquired (some c)]
  | acquire, .error _ => [.acquired none]
  | execute c sql arguments, _ => [.executed c sql arguments]
  | release c, _ => [.released c]

/-! ## Dialogues -/

inductive Dialogue (α : Type) : Type
  | done (outcome : Except Fault α)
  | ask (request : Request) (next : Except Fault request.Reply → Dialogue α)

namespace Dialogue

variable {α β : Type}

def ok (x : α) : Dialogue α := done (.ok x)

def fail (fault : Fault) : Dialogue α := done (.error fault)

/-- One request and its reply. -/
def request (q : Request) : Dialogue q.Reply := ask q done

/-- Goes on with the outcome of a dialogue, whether it succeeded or failed. -/
def afterwards : Dialogue α → (Except Fault α → Dialogue β) → Dialogue β
  | done outcome, next => next outcome
  | ask q replies, next => ask q fun reply => (replies reply).afterwards next

/-- Goes on with the result of a dialogue, unless it failed. -/
def andThen (d : Dialogue α) (next : α → Dialogue β) : Dialogue β :=
  d.afterwards fun
    | .ok x => next x
    | .error fault => fail fault

/-! ## Storages -/

/-- A storage with a state: it answers requests one by one. -/
structure Storage (σ : Type) where
  answer : (q : Request) → σ → Except Fault q.Reply × σ

/-- The outcome of a run, what storage saw of it, and the state it left storage in. -/
structure Run (σ α : Type) where
  outcome : Except Fault α
  exchanges : List Exchange
  state : σ

variable {σ : Type}

/-- Answers all requests of a dialogue. -/
def run (storage : Storage σ) : Dialogue α → σ → Run σ α
  | done outcome, s => ⟨outcome, [], s⟩
  | ask q next, s =>
    let (reply, s) := storage.answer q s
    let rest := run storage (next reply) s
    ⟨rest.outcome, q.exchanges reply ++ rest.exchanges, rest.state⟩

/-- Answers the first request of a dialogue. -/
def step (storage : Storage σ) : Dialogue α → σ → Dialogue α × List Exchange × σ
  | done outcome, s => (done outcome, [], s)
  | ask q next, s =>
    let (reply, s) := storage.answer q s
    (next reply, q.exchanges reply, s)

/-- Whether a request makes the one who asks wait. The clock and the pool are at hand. -/
def waits : Request → Bool
  | .clock => false
  | .pool => false
  | _ => true

/-- Runs a dialogue up to the first request that makes it wait. -/
def start (storage : Storage σ) : Dialogue α → σ → Dialogue α × σ
  | done outcome, s => (done outcome, s)
  | ask q next, s =>
    if waits q then (ask q next, s)
    else
      let (reply, s) := storage.answer q s
      start storage (next reply) s

/-! ## Laws -/

theorem afterwards_done (d : Dialogue α) : d.afterwards done = d := by
  induction d with
  | done outcome => rfl
  | ask q next ih => simp only [afterwards, ih]

theorem afterwards_assoc {γ : Type} (d : Dialogue α) (f : Except Fault α → Dialogue β)
    (g : Except Fault β → Dialogue γ) :
    (d.afterwards f).afterwards g = d.afterwards fun outcome => (f outcome).afterwards g := by
  induction d with
  | done outcome => rfl
  | ask q next ih => simp only [afterwards, ih]

end Dialogue
end ModelStore

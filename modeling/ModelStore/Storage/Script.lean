import ModelStore.Association
import ModelStore.Storage.Dialogue

/-!
# A storage that follows a script

For trying things out without a database: a storage whose replies are laid down in advance. Statements
are answered one by one from a list of responses; some statements, given by their exact text, always
fail; the statements that bracket a transaction succeed without using up a response. Acquiring and
releasing fail or succeed as two further lists say. The clock runs one millisecond per reading.

Connections are numbered by the size of the table of connections, in which a transaction's connection is
entered a second time under a name of its own.
-/

namespace ModelStore

structure Script where
  responses : List (Except Fault Outcome)
  /-- Statements that always fail, by their text. -/
  failures : Association Fault
  acquireFaults : List (Option Fault)
  releaseFaults : List (Option Fault)
  pool : Except Fault Unit
  clock : Int
  connections : Association Connection

namespace Script

/-- Statements that need no response. -/
def brackets : List String := ["BEGIN", "COMMIT", "ROLLBACK"]

/-- The next entry of a list of faults: its fault, and what is left of the list. -/
def nextFault : List (Option Fault) → Option Fault × List (Option Fault)
  | [] => (none, [])
  | entry :: rest => (entry, rest)

/-- The reply to a statement. -/
def reply (sql : String) (script : Script) : Except Fault Outcome × Script :=
  match script.failures.get? sql with
  | some fault => (.error fault, script)
  | none =>
    if brackets.contains sql then (.ok .empty, script)
    else match script.responses with
      | [] => (.ok .empty, script)
      | response :: rest => (response, { script with responses := rest })

/-- The reply to a request. -/
def answer : (q : Request) → Script → Except Fault q.Reply × Script
  | .clock, script => (.ok script.clock, { script with clock := script.clock + 1 })
  | .pool, script => (script.pool, script)
  | .acquire, script =>
    match nextFault script.acquireFaults with
    | (some fault, rest) => (.error fault, { script with acquireFaults := rest })
    | (none, rest) =>
      let label := "c" ++ toString script.connections.length
      (.ok label,
        { script with acquireFaults := rest, connections := script.connections.set label label })
  | .execute _ sql _, script => reply sql script
  | .release _, script =>
    let (fault, rest) := nextFault script.releaseFaults
    (match fault with | some fault => .error fault | none => .ok (),
      { script with releaseFaults := rest })

/-- A script as a storage. -/
def storage : Dialogue.Storage Script := ⟨answer⟩

end Script
end ModelStore

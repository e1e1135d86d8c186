import ModelStore.Query

/-!
# Running queries against a storage

A query is run by running the statement it has when it starts. While that is under way the query is
executing, and it is settled when it ends, whatever the outcome. A second run that is asked for meanwhile
is refused, and refused differently if the first one never had to wait.
-/

namespace ModelStore.Query

variable {σ : Type}

/-- Runs a query to its end; gives it as it then is. -/
def run (storage : Dialogue.Storage σ) (q : Query) (s : σ) :
    Except Fault (Query × Dialogue.Run σ Answer) := do
  let (statement, running) ← q.begin
  .ok (running.settle, statement.execute.run storage s)

/-- Runs a query and asks for a second run as soon as the first one waits; gives the query in the end,
the first run, and the refusal of the second. -/
def runTwice (storage : Dialogue.Storage σ) (q : Query) (s : σ) :
    Except Fault (Query × Dialogue.Run σ Answer × Option Fault) := do
  let (statement, running) ← q.begin
  let (dialogue, s) := statement.execute.start storage s
  let meanwhile := match dialogue with
    | .done _ => running.settle
    | .ask _ _ => running
  let refusal := match meanwhile.begin with
    | .ok _ => none
    | .error fault => some fault
  .ok (running.settle, dialogue.run storage s, refusal)

end ModelStore.Query

import ModelStore.Pool.Trial

/-!
# Rounds of a trial

In a round of a trial the program asks for a pool itself (`get`), or has callers ask, all at once, and waits
until all of them are served (`gather`). Something may happen while they wait: something else is
registered (`race`), or a caller is called off (`cancel`). Callers who were left behind in a round that
failed go on in the rounds after it.

Every round gives what has been seen of creations in its course.
-/

namespace ModelStore.Trial

/-- Nothing has been seen yet. -/
def fresh (trial : Trial) : Trial := { trial with seen := [] }

/-- Callers come to ask for the pools of some names; gives their numbers. -/
def enter (trial : Trial) (names : List String) : Trial × List Nat :=
  let callers := (List.range names.length).map (trial.callers.length + ·)
  ({ trial with
    callers := trial.callers ++ names.map fun _ => .coming
    agenda := trial.agenda ++ List.zipWith Job.ask callers names }, callers)

/-- The outcome of a caller. -/
def outcome (trial : Trial) (caller : Nat) : Except Fault Pool :=
  match trial.turnout caller with
  | .served outcome => outcome
  | _ => .error .abandoned

/-- Waits until some callers have been served. Those who were served before are counted all the same. -/
def serve (trial : Trial) (callers : List Nat) : Trial × List (Except Fault Pool) :=
  let isServed : Turnout → Bool
    | .served _ => true
    | _ => false
  let counted := (callers.filter fun caller => isServed (trial.turnout caller)).map Job.count
  let trial :=
    if callers.isEmpty then trial
    else { trial with agenda := trial.agenda ++ counted }.await (.callers callers)
  (trial, callers.map trial.outcome)

/-- Callers ask at once and are served. -/
def gather (trial : Trial) (names : List String) :
    Trial × List (Except Fault Pool) × List PoolEvent :=
  let (trial, callers) := trial.fresh.enter names
  let (trial, outcomes) := trial.serve callers
  (trial, outcomes, trial.seen)

/-- The program itself asks for the pool of a name and is served. -/
def get (trial : Trial) (name : String) : Trial × Except Fault Pool × List PoolEvent :=
  let caller := trial.callers.length
  let trial := { trial.fresh with callers := trial.callers ++ [Turnout.coming] }.ask caller name
  let trial := match trial.turnout caller with
    | .served _ => trial
    | _ => trial.await (.caller caller)
  (trial, trial.outcome caller, trial.seen)

/-- Callers ask at once for the pool of a name, and the creation they ask for, if any, starts. -/
def crowd (trial : Trial) (name : String) (callers : Nat) : Trial × List Nat :=
  let (trial, callers) := trial.fresh.enter (List.replicate callers name)
  (trial.pass.pass, callers)

/-- Callers ask at once for the pool of a name, under which something else is registered while they wait;
if what should be is refused, they are left behind. -/
def race (trial : Trial) (name : String) (callers : Nat) (database : Except Fault Database) :
    Trial × Except Fault (List (Except Fault Pool)) × List PoolEvent :=
  let (trial, callers) := trial.crowd name callers
  match database with
  | .ok database =>
    let (trial, outcomes) :=
      { trial with pools := trial.pools.connect name database }.serve callers
    (trial, .ok outcomes, trial.seen)
  | .error fault => (trial, .error fault, trial.seen)

/-- Callers ask at once for the pool of a name, and the first of them is called off if it still waits. To
call off the first of none is a misuse. -/
def cancel (trial : Trial) (name : String) (callers : Nat) :
    Trial × Except Fault (List (Except Fault Pool)) × List PoolEvent :=
  let (trial, callers) := trial.crowd name callers
  match callers with
  | [] => (trial, .error (.misused .index), trial.seen)
  | first :: _ =>
    let (trial, outcomes) := (trial.callOff first).serve callers
    (trial, .ok outcomes, trial.seen)

end ModelStore.Trial

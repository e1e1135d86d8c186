import ModelStore.Pool.Registry

/-!
# Callers in turn

Callers of a registry wait for one another's creations, and still only one thing happens at a time. What is
to happen stands on an agenda, and what comes of it goes to the end of the agenda:

* a caller asks, and either is served or waits;
* a creation starts, and works on opening a pool for some turns;
* its end is told to each caller that waits for it;
* a caller that has been told of it, or has been called off, goes on.

The program that runs a trial takes its turn like everybody else. It lets a turn pass, waits for a caller,
or waits for several, whom it counts as they are served. What becomes of the pools that are opened follows
a script, in the order in which they are opened.
-/

namespace ModelStore

/-- What is to happen in a trial. Callers and creations are numbered. -/
inductive Job
  | ask (caller : Nat) (name : String)
  | create (creation : Nat)
  | work (creation turns : Nat)
  | tell (caller : Nat)
  | resume (caller : Nat)
  | count (caller : Nat)
  | proceed

/-- How far a caller of a trial has come: it has not asked yet; it waits for a creation; it has been told
that the creation has ended; it has been called off; it has been served. -/
inductive Turnout
  | coming
  | waiting (caller : Pools.Caller)
  | told (caller : Pools.Caller)
  | leaving (caller : Pools.Caller)
  | served (outcome : Except Fault Pool)

/-- Whether a caller waits for a creation. -/
def Turnout.waitsFor (creation : Nat) : Turnout → Bool
  | .waiting caller => caller.creation == creation
  | _ => false

/-- What the program waits for. -/
inductive Awaited
  | nothing
  | turn
  | caller (caller : Nat)
  | callers (left : List Nat)

/-- A registry, the callers that ever came, and what is to happen. -/
structure Trial where
  pools : Pools
  /-- What the functions give that may be registered. A function is its place among them. -/
  functions : List String
  /-- What becomes of the pools that are opened, in order: a fault, or a numbered pool. -/
  faults : List (Option Fault)
  opened : Nat
  callers : List Turnout
  awaited : Awaited
  agenda : List Job
  /-- What has been seen of creations. -/
  seen : List PoolEvent

namespace Trial

/-- Nothing is registered, and the pools that are opened will fare as the script says. -/
def start (faults : List (Option Fault)) : Trial := ⟨.empty, [], faults, 0, [], .nothing, [], []⟩

/-- One more function that may be registered. -/
def define (trial : Trial) (address : String) : Trial × Database :=
  ({ trial with functions := trial.functions ++ [address] }, .function trial.functions.length)

/-- What a function gives. -/
def functionText (trial : Trial) (object : Nat) : String := trial.functions.getD object ""

/-- Puts a job at the end of the agenda. -/
def later (trial : Trial) (job : Job) : Trial := { trial with agenda := trial.agenda ++ [job] }

/-! ## Callers -/

/-- How far a caller has come. -/
def turnout (trial : Trial) (caller : Nat) : Turnout := trial.callers.getD caller .coming

/-- Notes how far a caller has come. -/
def note (trial : Trial) (caller : Nat) (turnout : Turnout) : Trial :=
  { trial with callers := trial.callers.set caller turnout }

/-- A caller has been served, which the program hears of if it waits for it. -/
def settle (trial : Trial) (caller : Nat) (outcome : Except Fault Pool) : Trial :=
  let trial := trial.note caller (.served outcome)
  match trial.awaited with
  | .caller awaited => if caller = awaited then { trial with awaited := .nothing } else trial
  | .callers left => if caller ∈ left then trial.later (.count caller) else trial
  | _ => trial

/-- Notes where a caller stands. -/
def stand (trial : Trial) (caller : Nat) : Pools.Standing → Trial
  | .served outcome => trial.settle caller outcome
  | .waits waiting => trial.note caller (.waiting waiting)

/-- A caller asks for the pool of a name. A creation that it asks for starts later. -/
def ask (trial : Trial) (caller : Nat) (name : String) : Trial :=
  let (pools, standing) := trial.pools.call name
  let asked := (List.range pools.creations.length).drop trial.pools.creations.length
  { trial with pools := pools, agenda := trial.agenda ++ asked.map Job.create }.stand caller standing

/-- A waiting caller is told that its creation has ended. -/
def tell (trial : Trial) (caller : Nat) : Trial :=
  match trial.turnout caller with
  | .waiting waiting => (trial.note caller (.told waiting)).later (.resume caller)
  | _ => trial

/-- A caller that still waits is called off, also if it has been told already. -/
def callOff (trial : Trial) (caller : Nat) : Trial :=
  match trial.turnout caller with
  | .waiting waiting => (trial.note caller (.leaving waiting)).later (.resume caller)
  | .told waiting => trial.note caller (.leaving waiting)
  | _ => trial

/-- A caller goes on. -/
def resume (trial : Trial) (caller : Nat) : Trial :=
  let go (step : Pools × Pools.Standing) := { trial with pools := step.1 }.stand caller step.2
  match trial.turnout caller with
  | .told waiting => go (trial.pools.resume waiting)
  | .leaving waiting => go (trial.pools.abandon waiting)
  | _ => trial

/-! ## Creations -/

/-- All who wait for a creation will be told of its end, in the order in which they came. -/
def spread (trial : Trial) (creation : Nat) : Trial :=
  let waiting := (List.range trial.callers.length).filter fun caller =>
    (trial.turnout caller).waitsFor creation
  { trial with agenda := trial.agenda ++ waiting.map Job.tell }

/-- How many turns it takes to open a pool. -/
def openingTurns : Nat := 3

/-- What the function gives that a creation calls, if it calls one. -/
def given (trial : Trial) (creation : Nat) : String :=
  match (trial.pools.creations[creation]?).map Creation.database with
  | some (.function object) => trial.functionText object
  | _ => ""

/-- Starts a creation. -/
def create (trial : Trial) (creation : Nat) : Trial :=
  let (pools, events) := trial.pools.begin creation (.ok (trial.given creation))
  let trial := { trial with pools := pools, seen := trial.seen ++ events }
  match pools.progress creation with
  | .waiting => trial
  | .opening => trial.later (.work creation openingTurns)
  | .ended _ => trial.spread creation

/-- Ends a creation that is opening a pool, as the script says. -/
def finish (trial : Trial) (creation : Nat) : Trial :=
  let (outcome, opened) : Except Fault Pool × Nat := match trial.faults with
    | some fault :: _ => (.error fault, trial.opened)
    | _ => (.ok ("pg" ++ toString trial.opened), trial.opened + 1)
  { trial with
    pools := trial.pools.finish creation outcome
    faults := trial.faults.drop 1
    opened := opened }.spread creation

/-! ## Turns -/

/-- Does one job. -/
def act (trial : Trial) : Job → Trial
  | .ask caller name => trial.ask caller name
  | .create creation => trial.create creation
  | .work creation turns =>
    if 1 < turns then trial.later (.work creation (turns - 1)) else trial.finish creation
  | .tell caller => trial.tell caller
  | .resume caller => trial.resume caller
  | .count caller => match trial.awaited with
    | .callers left =>
      let trial := { trial with awaited := .callers (left.erase caller) }
      if (left.erase caller).isEmpty then trial.later .proceed else trial
    | _ => trial
  | .proceed => { trial with awaited := .nothing }

/-- The program waits for nothing. -/
def isFree (trial : Trial) : Bool :=
  match trial.awaited with
  | .nothing => true
  | _ => false

/-- Does jobs until the program is free. Those that are left over stay ahead of what came of the others. -/
def actAll (trial : Trial) : List Job → Trial
  | [] => trial
  | job :: jobs =>
    let trial := trial.act job
    if trial.isFree then { trial with agenda := jobs ++ trial.agenda } else trial.actAll jobs

/-- Does what stands on the agenda, over and over, until the program is free. -/
def run (trial : Trial) : Nat → Trial
  | 0 => trial
  | rounds + 1 =>
    if trial.isFree then trial else ({ trial with agenda := [] }.actAll trial.agenda).run rounds

/-- No wait takes longer: in one round the callers ask, in the next their creations start, which end after
the turns it takes to open a pool; the callers are told, go on, and are counted, and the program
proceeds. -/
def longestWait : Nat := openingTurns + 6

/-- The program waits for something. -/
def await (trial : Trial) (awaited : Awaited) : Trial :=
  { trial with awaited := awaited }.run longestWait

/-- The program lets all others have a turn. -/
def pass (trial : Trial) : Trial := (trial.later .proceed).await .turn

end Trial
end ModelStore

import ModelStore.Query

/-!
# Changing a query in place

A caller who puts a query together holds one query and changes it, modifier by modifier. A modifier makes sure that the
query may still be changed, looks at what it was given, and then sets what it is there for, a handler under one code
after the other. Whatever it has set when it fails stays set: that a refused modifier leaves the query alone is not
built into `Change`, but a matter of what is done in which order.
-/

namespace ModelStore

/-- The fault of an outcome, if it is one. -/
def faultOf? {α : Type} : Except Fault α → Option Fault
  | .ok _ => none
  | .error fault => some fault

theorem faultOf?_map {α β : Type} (outcome : Except Fault α) (f : α → β) :
    faultOf? (outcome >>= fun x => .ok (f x)) = faultOf? outcome := by
  cases outcome <;> rfl

namespace Query

/-- What is done to a query. What was set before a failure stays set. -/
abbrev Change (α : Type) := ExceptT Fault (StateM Query) α

namespace Change

variable {α β : Type}

/-- The outcome for a query, and the query as it is then. -/
def result (change : Change α) (q : Query) : Except Fault α × Query := change.run.run q

/-- Why a change is refused for a query, if it is. -/
def refusal (change : Change α) (q : Query) : Option Fault := faultOf? (change.result q).1

/-- Sets something in the query. -/
def setting (f : Query → Query) : Change Unit := modifyThe Query f

/-! ## Laws -/

theorem result_bind (change : Change α) (next : α → Change β) (q : Query) :
    (change >>= next).result q = match change.result q with
      | (.ok x, q) => (next x).result q
      | (.error fault, q) => (.error fault, q) := by
  show (ExceptT.bindCont next (change.result q).1).run (change.result q).2 = _
  cases h : change.result q with
  | mk outcome q => cases outcome <;> rfl

theorem result_lift (outcome : Except Fault α) (q : Query) :
    (liftM outcome : Change α).result q = (outcome, q) := by
  cases outcome <;> rfl

/-- A change that is tried, with what is done after it whether it is refused or not. -/
theorem run_bind (change : Change α) (next : Except Fault α → StateM Query β) (q : Query) :
    (change.run >>= next).run q = (next (change.result q).1).run (change.result q).2 := rfl

theorem result_get (q : Query) : (get : Change Query).result q = (.ok q, q) := rfl

end Change

/-! ## Modifiers -/

open Change (setting)

/-- Applies a modifier to the query. -/
def Modifier.perform (registry : Option Registry) (m : Modifier) : Change Unit := do
  (← get).requireBuilding
  match m with
  | fetch => setting fun q => { q with fetching := true }
  | limit v =>
    let limit ← parseLimit v
    setting fun q => { q with limit := some limit }
  | sort v =>
    let order ← Order.parse v
    setting fun q => { q with order := some order }
  | populate name =>
    let plan ← (← get).plan registry name
    setting fun q => { q with population := some plan }
  | connection c => setting fun q => { q with connection := c }
  | intercept kind offer =>
    let handler ← offer.check
    (Violation.codesOf kind).forM fun code =>
      setting fun q => { q with interceptors := q.interceptors.set code handler }

/-- Applies modifiers up to the first that is refused; tells the place and the reason of the refusal. -/
def performAll (registry : Option Registry) (place : Nat) : List Modifier → StateM Query (Option (Nat × Fault))
  | [] => return none
  | m :: rest => do
    match ← (m.perform registry).run with
    | .ok _ => performAll registry (place + 1) rest
    | .error fault => return some (place, fault)

/-- Applies modifiers and goes on after one that is refused; tells why each was refused, if it was. -/
def performEach (registry : Option Registry) : List Modifier → StateM Query (List (Option Fault))
  | [] => return []
  | m :: rest => do
    let outcome ← (m.perform registry).run
    return faultOf? outcome :: (← performEach registry rest)

/-- What becomes of a query and of the modifiers that are applied to it. -/
def afterEach (registry : Option Registry) (ms : List Modifier) (q : Query) : List (Option Fault) × Query :=
  (performEach registry ms).run q

end Query
end ModelStore

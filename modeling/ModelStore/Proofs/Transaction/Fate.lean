import ModelStore.Proofs.Storage.Transcript
import ModelStore.Storage.Script
import ModelStore.Transaction

/-!
# The fate of a transaction, and what its caller is told

The fate of a transaction is a matter of four steps: the connection is acquired, the transaction begun, the
unit of work done, and `COMMIT` sent. If all four succeed it is done, and done for good; otherwise the first
of them that failed is why it is not. What comes after, `ROLLBACK` and giving the connection back, changes
nothing of that any more.

It does change what the caller hears. `Course work told fate later` says of a conversation both what became
of the transaction and whether something that came `later` takes the fate's place, and
**`outcome_eq_fate_iff` says exactly when the caller is told the truth**: when nothing later failed in a way
that counts. Two things count.

* *The connection is not taken back.* Then that failure is the outcome, even of a transaction that is
  committed: the caller who tries again does the work twice.
* *The rollback is called off.* A rollback that merely fails is swallowed, and the failure that caused it
  stands; one that is called off replaces it.

Both happen (`fate_not_told`).
-/

namespace ModelStore.Transaction

open Dialogue

variable {α σ : Type}

/-! ## What takes the place of the fate -/

def failure? {β : Type} : Except Fault β → Option Fault
  | .ok _ => none
  | .error fault => some fault

/-- The failure that takes the place of a fate after a rollback: that of giving the connection back, or
else the rollback's, if that was called off. -/
def replacement (rolledBack : Except Fault Outcome) (released : Except Fault Unit) : Option Fault :=
  (failure? released).or ((failure? rolledBack).filter fun fault => !fault.isOrdinary)

def told (fate : Except Fault α) : Option Fault → Except Fault α
  | none => fate
  | some fault => .error fault

/-- The caller is told the fate unless something else took its place. -/
theorem told_eq_iff {fate : Except Fault α} {later : Option Fault} :
    told fate later = fate ↔ ∀ fault, later = some fault → fate = .error fault := by
  cases later with
  | none => simp [told]
  | some fault =>
    constructor
    · intro h other ho
      obtain rfl := Option.some.inj ho
      exact h.symm
    · intro h
      exact (h fault rfl).symm

/-! ## Conversations of a transaction -/

/-- The end of a transaction on a connection, by the outcome of its unit of work: what is sent, the
transaction's fate, and what takes its place. -/
inductive Ends (c : Connection) : Except Fault α → List Answered → Except Fault α → Option Fault → Prop
  | committed (result : α) (done : Outcome) (released : Except Fault Unit) :
      Ends c (.ok result) [.sent c "COMMIT" [] (.ok done), .released c released]
        (.ok result) (failure? released)
  | uncommitted (result : α) (fault : Fault) (rolledBack : Except Fault Outcome)
      (released : Except Fault Unit) :
      Ends c (.ok result)
        [.sent c "COMMIT" [] (.error fault), .sent c "ROLLBACK" [] rolledBack, .released c released]
        (.error fault) (replacement rolledBack released)
  | failed (fault : Fault) (rolledBack : Except Fault Outcome) (released : Except Fault Unit) :
      Ends c (.error fault) [.sent c "ROLLBACK" [] rolledBack, .released c released]
        (.error fault) (replacement rolledBack released)

/-- **The course of a transaction**: the whole conversation, what became of it, and what takes the place of
that. -/
inductive Course (work : Connection → Dialogue α) :
    List Answered → Except Fault α → Option Fault → Prop
  | poolless (fault : Fault) : Course work [⟨.pool, .error fault⟩] (.error fault) none
  | refused (fault : Fault) :
      Course work [⟨.pool, .ok ()⟩, ⟨.acquire, .error fault⟩] (.error fault) none
  | unbegun (c : Connection) (fault : Fault) (released : Except Fault Unit) :
      Course work
        [⟨.pool, .ok ()⟩, .acquired c, .sent c "BEGIN" [] (.error fault), .released c released]
        (.error fault) (failure? released)
  | worked {c : Connection} {middle tail : List Answered} {result fate : Except Fault α}
      {later : Option Fault} (begun : Outcome) (hwork : Runs (work c) middle result)
      (hends : Ends c result tail fate later) :
      Course work
        (⟨.pool, .ok ()⟩ :: .acquired c :: .sent c "BEGIN" [] (.ok begun) :: (middle ++ tail)) fate later

/-! ## From the inside out -/

theorem runs_command {c : Connection} {sql : String} {said : List Answered} {o : Except Fault Unit} :
    Runs (command c sql) said o ↔
      ∃ reply : Except Fault Outcome, said = [.sent c sql [] reply] ∧ o = reply.map fun _ => () := by
  unfold command
  rw [runs_andThen]
  constructor
  · rintro (⟨fault, hask, rfl⟩ | ⟨outcome, first, second, rfl, hask, hok⟩)
    · exact ⟨.error fault, runs_request.mp hask, rfl⟩
    · obtain ⟨rfl, rfl⟩ := runs_ok.mp hok
      exact ⟨.ok outcome, by simpa using runs_request.mp hask, rfl⟩
  · rintro ⟨reply, rfl, rfl⟩
    cases reply with
    | error fault => exact Or.inl ⟨fault, runs_request.mpr rfl, rfl⟩
    | ok outcome => exact Or.inr ⟨outcome, _, [], rfl, runs_request.mpr rfl, Leads.here _⟩

/-- A rollback is one statement, and after it the failure stands unless the rollback was called off. -/
theorem told_of_runs_rollingBack {c : Connection} {fault : Fault} {said : List Answered}
    {o : Except Fault α} (h : Runs (rollingBack c fault) said o) :
    ∃ rolledBack : Except Fault Outcome, said = [.sent c "ROLLBACK" [] rolledBack] ∧
      o = told (.error fault) ((failure? rolledBack).filter fun fault => !fault.isOrdinary) := by
  unfold rollingBack at h
  obtain ⟨first, middle, second, rfl, hcommand, hrest⟩ := runs_afterwards.mp h
  obtain ⟨reply, rfl, rfl⟩ := runs_command.mp hcommand
  refine ⟨reply, ?_⟩
  cases reply with
  | ok _ =>
    obtain ⟨rfl, rfl⟩ := runs_fail.mp hrest
    exact ⟨rfl, rfl⟩
  | error failed =>
    obtain ⟨rfl, rfl⟩ := runs_fail.mp hrest
    refine ⟨rfl, ?_⟩
    cases hordinary : failed.isOrdinary <;> simp [failure?, told, Option.filter, hordinary]

theorem afterRelease_told (released : Except Fault Unit) (fate : Except Fault α) (later : Option Fault) :
    afterRelease released (told fate later) = told fate ((failure? released).or later) := by
  cases released with
  | ok _ => rfl
  | error fault => rfl

theorem ends_of_runs_closing {c : Connection} {result : Except Fault α} {tail : List Answered}
    {o : Except Fault α} (h : Runs (closing c result) tail o) :
    ∃ fate later, Ends c result tail fate later ∧ o = told fate later := by
  unfold closing at h
  obtain ⟨first, middle, last, rfl, hend, hrelease⟩ := runs_afterwards.mp h
  obtain ⟨released, rfl, rfl⟩ := runs_releasing.mp hrelease
  cases result with
  | error fault =>
    obtain ⟨rolledBack, rfl, rfl⟩ := told_of_runs_rollingBack hend
    exact ⟨_, _, .failed fault rolledBack released, afterRelease_told _ _ _⟩
  | ok result =>
    obtain ⟨first, committed, second, rfl, hcommit, hrest⟩ := runs_afterwards.mp hend
    obtain ⟨reply, rfl, rfl⟩ := runs_command.mp hcommit
    cases reply with
    | ok done =>
      obtain ⟨rfl, rfl⟩ := runs_ok.mp hrest
      refine ⟨_, _, .committed result done released, ?_⟩
      simpa [told] using afterRelease_told released (.ok result) none
    | error fault =>
      obtain ⟨rolledBack, rfl, rfl⟩ := told_of_runs_rollingBack hrest
      exact ⟨_, _, .uncommitted result fault rolledBack released, afterRelease_told _ _ _⟩

/-- The opening gives up at the pool, at the connection or at `BEGIN`, or it has the connection. -/
theorem course_of_runs_opening {work : Connection → Dialogue α} {said : List Answered}
    {opened : Except Fault Connection} (h : Runs opening said opened) :
    (∃ fault later, opened = told (.error fault) later ∧ Course work said (.error fault) later) ∨
    ∃ c begun, said = [⟨.pool, .ok ()⟩, .acquired c, .sent c "BEGIN" [] (.ok begun)] ∧ opened = .ok c := by
  unfold opening at h
  rcases runs_andThen.mp h with ⟨fault, hpool, rfl⟩ | ⟨_, pool, rest, rfl, hpool, hrest⟩
  · rw [runs_request.mp hpool]
    exact Or.inl ⟨fault, none, rfl, .poolless fault⟩
  rw [runs_request.mp hpool]
  rcases runs_andThen.mp hrest with ⟨fault, hacquire, rfl⟩ | ⟨c, acquire, last, rfl, hacquire, hlast⟩
  · rw [runs_request.mp hacquire]
    exact Or.inl ⟨fault, none, rfl, .refused fault⟩
  rw [runs_request.mp hacquire]
  obtain ⟨begin_, middle, after, rfl, hbegin, hafter⟩ := runs_afterwards.mp hlast
  obtain ⟨reply, rfl, rfl⟩ := runs_command.mp hbegin
  cases reply with
  | ok begun =>
    obtain ⟨rfl, rfl⟩ := runs_ok.mp hafter
    exact Or.inr ⟨c, begun, rfl, rfl⟩
  | error fault =>
    -- the connection is there already, and has to be given back
    obtain ⟨released, rfl, rfl⟩ := runs_releasing.mp hafter
    refine Or.inl ⟨fault, failure? released, ?_, .unbegun c fault released⟩
    simpa [told] using afterRelease_told released (.error fault : Except Fault Connection) none

/-- Every run of a transaction takes one of the courses, and its outcome is what the course tells. -/
theorem course_of_runs {work : Connection → Dialogue α} {said : List Answered} {o : Except Fault α}
    (h : Runs (run work) said o) : ∃ fate later, Course work said fate later ∧ o = told fate later := by
  unfold run at h
  rcases runs_andThen.mp h with ⟨fault, hopen, rfl⟩ | ⟨c, first, second, rfl, hopen, hrest⟩
  · rcases course_of_runs_opening hopen with ⟨fault', later, htold, hcourse⟩ | ⟨c, begun, -, hopened⟩
    · refine ⟨_, later, hcourse, ?_⟩
      cases later with
      | none => rw [Except.error.inj htold]; rfl
      | some other => rw [Except.error.inj htold]; rfl
    · exact absurd hopened (by simp)
  · rcases @course_of_runs_opening _ work _ _ hopen with ⟨fault, later, htold, -⟩ | ⟨c', begun, rfl, hopened⟩
    · exact absurd htold (by cases later <;> simp [told])
    · obtain rfl := Except.ok.inj hopened
      obtain ⟨middle, result, tail, rfl, hwork, hclosing⟩ := runs_afterwards.mp hrest
      obtain ⟨fate, later, hends, rfl⟩ := ends_of_runs_closing hclosing
      have hcourse := Course.worked begun hwork hends
      exact ⟨fate, later, by simpa using hcourse, rfl⟩

/-! ## Whether the caller is told the fate -/

/-- **A transaction's outcome is its fate exactly if nothing takes the fate's place**, other than by
saying the same. -/
theorem outcome_eq_fate_iff (work : Connection → Dialogue α) (storage : Storage σ) (st : σ) :
    ∃ fate later, Course work ((run work).transcript storage st) fate later ∧
      ((run work).run storage st).outcome = told fate later ∧
      (((run work).run storage st).outcome = fate ↔
        ∀ fault, later = some fault → fate = .error fault) := by
  obtain ⟨fate, later, hcourse, houtcome⟩ := course_of_runs (runs_transcript storage (run work) st)
  refine ⟨fate, later, hcourse, houtcome, ?_⟩
  rw [houtcome]
  exact told_eq_iff

/-- A storage that fails one statement, or does not take its first connection back. -/
def failing (failures : Association Fault) (releaseFaults : List (Option Fault)) : Script where
  responses := []
  failures := failures
  acquireFaults := []
  releaseFaults := releaseFaults
  pool := .ok ()
  clock := 1000
  connections := []

/-- **The fate is not always told.** A transaction that committed with the result 7 is reported as a
failure because its connection is not taken back; and one whose work failed is reported as called off,
because its rollback was. -/
theorem fate_not_told :
    (let work : Connection → Dialogue Nat := fun _ => Dialogue.ok 7
     let lost := Fault.custom "connection lost"
     let s := failing [] [some lost]
     Course work ((run work).transcript Script.storage s) (.ok 7) (some lost) ∧
     ((run work).run Script.storage s).outcome = .error lost) ∧
    (let work : Connection → Dialogue Nat := fun _ => Dialogue.fail (.custom "out of stock")
     let s := failing [("ROLLBACK", .cancelled "shutting down")] []
     Course work ((run work).transcript Script.storage s) (.error (.custom "out of stock"))
       (some (.cancelled "shutting down")) ∧
     ((run work).run Script.storage s).outcome = .error (.cancelled "shutting down")) := by
  refine ⟨⟨?_, rfl⟩, ⟨?_, rfl⟩⟩
  · exact @Course.worked Nat _ "c0" [] _ _ _ _ .empty (Leads.here _)
      (.committed 7 .empty (.error (.custom "connection lost")))
  · exact @Course.worked Nat _ "c0" [] _ _ _ _ .empty (Leads.here _)
      (.failed (.custom "out of stock") (.error (.cancelled "shutting down")) (.ok ()))

end ModelStore.Transaction

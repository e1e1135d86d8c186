import Mathlib.Logic.Relation
import ModelStore.Pool.Registry

/-!
# Courses of a registry

Callers ask a registry for pools, wait for creations and go on, creations start and end, and in between
something else is registered: all this in any order whatever. A *course* is what has come of a list of such
acts. It holds the registry, where each caller stands, and a log of what is not to be seen in these two any
more: in which order names were registered and asked for, which creations were started for them, and which
caller waited for which.

Calls are numbered in the order in which they are made, creations in the order in which they are started. An
act that nothing can come of does nothing: a creation that is not opening a pool does not finish, and a caller
that does not wait, or whose creation has not ended, does not go on.

Three things are said of courses here. The acts come down to six *moves* (`Move`), so that what is to hold of
every course need be shown of these: in particular an act that makes a caller wait and the act that has it go on
are the same whether they come one right after the other or far apart (`act_call_of_seeks`), and a call that finds
its creation ended needs no argument of its own. And **what has been is not undone** (`Extends`): a creation stays
the creation of its name and its database, and once it has ended, its outcome stays. As for the log, it is kept beside
the registry and might as well say something else; but **the creations and the calls it tells of are those there are**
(`recorded_after`).
-/

namespace ModelStore.Pools

/-! ## What happens -/

inductive Event
  | registered (name : String) (database : Database)
  | asked (call : Nat) (name : String)
  | created (creation : Nat) (name : String)
  | joined (call creation : Nat)

/-- The creation that an event tells the start of: its name and its number. -/
def Event.started? : Event → Option (String × Nat)
  | .created creation name => some (name, creation)
  | .registered _ _ | .asked _ _ | .joined _ _ => none

/-- The call that an event tells the making of: its number. -/
def Event.asked? : Event → Option Nat
  | .asked call _ => some call
  | .registered _ _ | .created _ _ | .joined _ _ => none

inductive Act
  | connect (name : String) (database : Database)
  | call (name : String)
  /-- A creation starts; a function that it calls gives this. -/
  | begin (creation : Nat) (given : Except Fault String)
  | finish (creation : Nat) (outcome : Except Fault Pool)
  | resume (call : Nat)
  | abandon (call : Nat)

structure Course where
  pools : Pools
  calls : List Standing
  log : List Event

/-- The database that a call for a name needs a creation for. A pool that is at hand, or that is what was
registered, needs none; and nothing can be created where nothing is registered. -/
def seeks? (pools : Pools) (name : String) : Option Database :=
  match pools.ready.get? name, pools.databases.get? name with
  | none, some (.ready _) => none
  | none, database => database
  | some _, _ => none

/-- What is to be noted of a call that joins a creation: the start of it, unless it is under way, and who waits
for it. -/
def joinEvents (pools : Pools) (call : Nat) (name : String) : List Event :=
  match pools.current.get? name with
  | some creation => [.joined call creation]
  | none => [.created pools.creations.length name, .joined call pools.creations.length]

namespace Course

def act (course : Course) : Act → Course
  | .connect name database =>
    { course with
      pools := course.pools.connect name database, log := course.log ++ [.registered name database] }
  | .call name =>
    let call := course.calls.length
    let (pools, standing) := course.pools.call name
    let joining := match course.pools.seeks? name with
      | some _ => course.pools.joinEvents call name
      | none => []
    ⟨pools, course.calls ++ [standing], course.log ++ .asked call name :: joining⟩
  | .begin creation given => { course with pools := (course.pools.begin creation given).1 }
  | .finish creation outcome => { course with pools := course.pools.finish creation outcome }
  | .resume call => match course.calls[call]? with
    | some (.waits caller) =>
      let (pools, standing) := course.pools.resume caller
      { course with pools := pools, calls := course.calls.set call standing }
    | _ => course
  | .abandon call => match course.calls[call]? with
    | some (.waits caller) =>
      let (pools, standing) := course.pools.abandon caller
      { course with pools := pools, calls := course.calls.set call standing }
    | _ => course

/-- What has come of some acts, if nothing was registered before. -/
def after (acts : List Act) : Course := acts.foldl act ⟨.empty, [], []⟩

theorem after_append (acts more : List Act) : after (acts ++ more) = more.foldl act (after acts) :=
  List.foldl_append

theorem after_concat (acts : List Act) (a : Act) : after (acts ++ [a]) = (after acts).act a := by
  rw [after_append, List.foldl_cons, List.foldl_nil]

theorem act_resume_of_waits {course : Course} {call : Nat} {caller : Caller}
    (h : course.calls[call]? = some (.waits caller)) :
    course.act (.resume call) =
      ⟨(course.pools.resume caller).1, course.calls.set call (course.pools.resume caller).2, course.log⟩ := by
  simp only [act, h]

/-- A caller that goes on is served its creation's outcome; all others stay where they are. -/
theorem act_resume_cases (course : Course) (call : Nat) :
    course.act (.resume call) = course ∨
      ∃ caller outcome, course.calls[call]? = some (.waits caller) ∧
        course.pools.progress caller.creation = .ended outcome ∧
        course.act (.resume call) =
          ⟨(course.pools.resume caller).1, course.calls.set call (.served outcome), course.log⟩ := by
  cases hcall : course.calls[call]? with
  | none => exact .inl (by simp only [act, hcall])
  | some standing =>
    cases standing with
    | served outcome => exact .inl (by simp only [act, hcall])
    | waits caller =>
      by_cases hended : ∃ outcome, course.pools.progress caller.creation = .ended outcome
      · obtain ⟨outcome, hended⟩ := hended
        refine .inr ⟨caller, outcome, rfl, hended, ?_⟩
        rw [act_resume_of_waits hcall, resume_of_ended _ _ hended]
      · have hsame : course.calls.set call (.waits caller) = course.calls := by
          obtain ⟨hlt, hget⟩ := List.getElem?_eq_some_iff.mp hcall
          rw [← hget, List.set_getElem_self]
        left
        rw [act_resume_of_waits hcall, resume_of_not_ended _ _ (by simpa using hended), hsame]

/-- A caller that is called off closes its creation if that has ended. -/
theorem act_abandon_cases (course : Course) (call : Nat) :
    course.act (.abandon call) = course ∨
      ∃ caller, course.calls[call]? = some (.waits caller) ∧
        course.act (.abandon call) =
          ⟨course.pools.retire caller, course.calls.set call (.served (.error .abandoned)), course.log⟩ := by
  cases hcall : course.calls[call]? with
  | none => exact .inl (by simp only [act, hcall])
  | some standing =>
    cases standing with
    | served outcome => exact .inl (by simp only [act, hcall])
    | waits caller => exact .inr ⟨caller, rfl, by simp only [act, hcall, Pools.abandon]⟩

/-- The course with one more caller, who waits for a creation. -/
def enter (course : Course) (name : String) (database : Database) : Course :=
  let (pools, caller) := course.pools.join name database
  ⟨pools, course.calls ++ [.waits caller],
    course.log ++ .asked course.calls.length name :: course.pools.joinEvents course.calls.length name⟩

end Course

/-! ## Calls -/

theorem standing_of_concat {calls : List Standing} {standing standing' : Standing} {call : Nat}
    (h : (calls ++ [standing])[call]? = some standing') :
    calls[call]? = some standing' ∨ call = calls.length ∧ standing' = standing := by
  rw [List.getElem?_append] at h
  split at h
  · exact .inl h
  case isFalse hge =>
    have hlast : call - calls.length = 0 := by
      have := (List.getElem?_eq_some_iff.mp h).1
      simpa using this
    refine .inr ⟨by omega, ?_⟩
    rw [hlast] at h
    exact (Option.some.inj h).symm

theorem standing_concat {calls : List Standing} {standing : Standing} {call : Nat}
    (h : calls[call]? = some standing) (last : Standing) : (calls ++ [last])[call]? = some standing := by
  rw [List.getElem?_append_left (List.getElem?_eq_some_iff.mp h).1, h]

/-- A call stands as it did, unless it is the one that is set. -/
theorem standing_of_set {calls : List Standing} {call other : Nat} {standing standing' : Standing}
    (h : (calls.set call standing)[other]? = some standing') :
    calls[other]? = some standing' ∨ other = call ∧ standing = standing' := by
  by_cases heq : call = other
  · subst heq
    have hlt : call < calls.length := by simpa using (List.getElem?_eq_some_iff.mp h).1
    exact .inr ⟨rfl, by simpa [hlt] using h⟩
  · rw [List.getElem?_set_ne heq] at h
    exact .inl h

/-- A caller waits on only for what it waited for. -/
theorem of_resume_waits {pools : Pools} {caller caller' : Caller} (h : (pools.resume caller).2 = .waits caller') :
    caller' = caller := by
  by_cases hended : ∃ outcome, pools.progress caller.creation = .ended outcome
  · obtain ⟨outcome, hended⟩ := hended
    rw [resume_of_ended _ _ hended] at h
    cases h
  · rw [resume_of_not_ended _ _ (by simpa using hended)] at h
    cases h
    rfl

/-- A caller gets a pool only if that is what it waited for. -/
theorem of_resume_served {pools : Pools} {caller : Caller} {outcome : Except Fault Pool}
    (h : (pools.resume caller).2 = .served outcome) : pools.progress caller.creation = .ended outcome := by
  by_cases hended : ∃ outcome, pools.progress caller.creation = .ended outcome
  · obtain ⟨outcome', hended⟩ := hended
    rw [resume_of_ended _ _ hended] at h
    cases h
    exact hended
  · rw [resume_of_not_ended _ _ (by simpa using hended)] at h
    cases h

theorem of_seeks {pools : Pools} {name : String} {database : Database} (h : pools.seeks? name = some database) :
    pools.ready.get? name = none ∧ pools.databases.get? name = some database := by
  unfold seeks? at h
  split at h
  · cases h
  · exact ⟨by assumption, h⟩
  · cases h

theorem ne_ready_of_seeks {pools : Pools} {name : String} {database : Database}
    (h : pools.seeks? name = some database) (own : Pool) :
    database ≠ .ready own := by
  rintro rfl
  obtain ⟨hready, hdatabase⟩ := of_seeks h
  simp [seeks?, hready, hdatabase] at h

theorem call_of_seeks {pools : Pools} {name : String} {database : Database}
    (h : pools.seeks? name = some database) :
    pools.call name = (pools.join name database).1.resume (pools.join name database).2 := by
  unfold seeks? at h
  unfold call
  cases hready : pools.ready.get? name with
  | some pool => simp [hready] at h
  | none =>
    cases hdatabase : pools.databases.get? name with
    | none => simp [hready, hdatabase] at h
    | some registered =>
      cases registered with
      | ready pool => simp [hready, hdatabase] at h
      | address object text =>
        obtain rfl : database = .address object text := by simpa [hready, hdatabase] using h.symm
        rfl
      | function object =>
        obtain rfl : database = .function object := by simpa [hready, hdatabase] using h.symm
        rfl

/-- **A call is a waiting and a going on.** -/
theorem Course.act_call_of_seeks {course : Course} {name : String} {database : Database}
    (h : course.pools.seeks? name = some database) :
    course.act (.call name) = (course.enter name database).act (.resume course.calls.length) := by
  have hlast : (course.enter name database).calls[course.calls.length]?
      = some (.waits (course.pools.join name database).2) := by
    simp [enter]
  rw [Course.act_resume_of_waits hlast]
  simp [act, h, call_of_seeks h, enter]

/-- There is a pool for the name, and none need be created. -/
def AtHand (pools : Pools) (name : String) (pool : Pool) : Prop :=
  pools.ready.get? name = some pool ∨ pools.databases.get? name = some (.ready pool)

/-- **A call that needs no creation is served at once**, with what is at hand, and touches nothing but the pools at
hand. -/
theorem call_of_not_seeks {pools : Pools} {name : String} (h : pools.seeks? name = none) :
    ∃ ready outcome, pools.call name = ({ pools with ready := ready }, .served outcome) ∧
      (∀ other, pools.ready.get? other ≠ none → ready.get? other ≠ none) ∧
      (∀ fault, outcome = .error fault → fault = Fault.noConnection name) ∧
      (∀ other pool, ready.get? other = some pool → pools.AtHand other pool) ∧
      ∀ pool, outcome = .ok pool → pools.AtHand name pool := by
  unfold seeks? at h
  unfold call
  cases hready : pools.ready.get? name with
  | some pool =>
    refine ⟨pools.ready, .ok pool, rfl, fun _ h => h, by simp, fun _ _ h => .inl h, ?_⟩
    intro pool' heq
    cases heq
    exact .inl hready
  | none =>
    cases hdatabase : pools.databases.get? name with
    | none =>
      refine ⟨pools.ready, .error (Fault.noConnection name), rfl, fun _ h => h, ?_, fun _ _ h => .inl h, by simp⟩
      intro fault hfault
      cases hfault
      rfl
    | some registered =>
      cases registered with
      | address object text => simp [hready, hdatabase] at h
      | function object => simp [hready, hdatabase] at h
      | ready pool =>
        refine ⟨pools.ready.set name pool, .ok pool, by simp [keep, hdatabase], ?_, by simp, ?_, ?_⟩
        · intro other hother
          have := ready_keep_of_ready pools name (.ready pool) pool hother
          simpa [keep, hdatabase] using this
        · intro other pool' hother
          by_cases hname : other = name
          · subst hname
            obtain rfl : pool = pool' := by simpa [Association.get?_set_self] using hother
            exact .inr hdatabase
          · rw [Association.get?_set_of_ne _ _ hname] at hother
            exact .inl hother
        · intro pool' heq
          cases heq
          exact .inr hdatabase

/-! ## Moves -/

/-- The registry with one more creation, which may be joined. -/
def create (pools : Pools) (name : String) (database : Database) : Pools :=
  { pools with
    current := pools.current.set name pools.creations.length
    creations := pools.creations ++ [⟨name, database, .waiting⟩] }

theorem of_current_create {pools : Pools} {name other : String} {database : Database} {id : Nat}
    (h : (pools.create name database).current.get? other = some id) :
    (other = name ∧ id = pools.creations.length) ∨ pools.current.get? other = some id := by
  by_cases hname : other = name
  · subst hname
    rw [create, Association.get?_set_self, Option.some.injEq] at h
    exact .inl ⟨rfl, h.symm⟩
  · rw [create, Association.get?_set_of_ne _ _ hname] at h
    exact .inr h

namespace Course

/-- **What may happen to a course at once.** -/
inductive Move : Course → Course → Prop
  | registers (course : Course) (name : String) (database : Database) :
    Move course ⟨course.pools.connect name database, course.calls, course.log ++ [.registered name database]⟩
  | answers (course : Course) (name : String) (ready : Association Pool) (outcome : Except Fault Pool) :
    (∀ other, course.pools.ready.get? other ≠ none → ready.get? other ≠ none) →
    (∀ fault, outcome = .error fault → fault = Fault.noConnection name) →
    Move course ⟨{ course.pools with ready := ready }, course.calls ++ [.served outcome],
      course.log ++ [.asked course.calls.length name]⟩
  | joins (course : Course) (name : String) (database : Database) (creation : Nat) :
    course.pools.seeks? name = some database → course.pools.current.get? name = some creation →
    Move course ⟨course.pools, course.calls ++ [.waits ⟨name, database, creation⟩],
      course.log ++ [.asked course.calls.length name, .joined course.calls.length creation]⟩
  | creates (course : Course) (name : String) (database : Database) :
    course.pools.seeks? name = some database → course.pools.current.get? name = none →
    Move course ⟨course.pools.create name database,
      course.calls ++ [.waits ⟨name, database, course.pools.creations.length⟩],
      course.log ++ [.asked course.calls.length name, .created course.pools.creations.length name,
        .joined course.calls.length course.pools.creations.length]⟩
  | advances (course : Course) (creation : Nat) (progress : Progress) :
    (∀ outcome, course.pools.progress creation ≠ .ended outcome) →
    Move course { course with pools := course.pools.advance creation progress }
  | serves (course : Course) (call : Nat) (caller : Caller) (outcome : Except Fault Pool) :
    course.calls[call]? = some (.waits caller) → course.pools.progress caller.creation = .ended outcome →
    Move course ⟨(course.pools.resume caller).1, course.calls.set call (.served outcome), course.log⟩

/-- Any number of moves. -/
abbrev Moves : Course → Course → Prop := Relation.ReflTransGen Move

theorem move_enter {course : Course} {name : String} {database : Database}
    (h : course.pools.seeks? name = some database) : Move course (course.enter name database) := by
  cases hcurrent : course.pools.current.get? name with
  | some creation =>
    simp only [enter, join, joinEvents, hcurrent]
    exact .joins course name database creation h hcurrent
  | none =>
    simp only [enter, join, joinEvents, hcurrent]
    exact .creates course name database h hcurrent

theorem moves_resume (course : Course) (call : Nat) : Moves course (course.act (.resume call)) := by
  rcases act_resume_cases course call with hsame | ⟨caller, outcome, hcall, hended, hact⟩
  · rw [hsame]
  · rw [hact]
    exact .single (.serves course call caller outcome hcall hended)

end Course

section

variable (pools : Pools) (id : Nat)

/-- A creation's start changes nothing but how far it has come. -/
theorem begin_cases (given : Except Fault String) :
    (pools.begin id given).1 = pools ∨ ∃ progress, (pools.begin id given).1 = pools.advance id progress ∧
      ∀ outcome, pools.progress id ≠ .ended outcome := by
  unfold begin
  cases hc : pools.creations[id]? with
  | none => exact .inl rfl
  | some creation =>
    dsimp only
    cases hprogress : creation.progress with
    | waiting =>
      have hnot : ∀ outcome, pools.progress id ≠ .ended outcome := by
        intro outcome hended
        simp [progress, hc, hprogress] at hended
      dsimp only
      split
      · exact .inr ⟨_, rfl, hnot⟩
      · exact .inr ⟨_, rfl, hnot⟩
    | opening => exact .inl rfl
    | ended outcome => exact .inl rfl

/-- Neither does its end. -/
theorem finish_cases (outcome : Except Fault Pool) :
    pools.finish id outcome = pools ∨ ∃ progress, pools.finish id outcome = pools.advance id progress ∧
      ∀ outcome, pools.progress id ≠ .ended outcome := by
  unfold finish
  cases hprogress : pools.progress id with
  | opening => exact .inr ⟨_, rfl, by simp⟩
  | waiting => exact .inl rfl
  | ended outcome => exact .inl rfl

end

namespace Course

/-- **Every act is made of moves**, unless a caller is called off. -/
theorem moves_act (course : Course) {a : Act} (ha : ∀ call, a ≠ .abandon call) : Moves course (course.act a) := by
  cases a with
  | connect name database => exact .single (.registers course name database)
  | call name =>
    cases hseeks : course.pools.seeks? name with
    | some database =>
      rw [act_call_of_seeks hseeks]
      exact .head (move_enter hseeks) (moves_resume _ _)
    | none =>
      obtain ⟨ready, outcome, hcall, hready, hfault, -⟩ := call_of_not_seeks hseeks
      simp only [act, hcall, hseeks]
      exact .single (.answers course name ready outcome hready hfault)
  | begin id given =>
    rcases begin_cases course.pools id given with h | ⟨progress, h, hnot⟩
    · simp only [act, h]
      exact .refl
    · simp only [act, h]
      exact .single (.advances course id progress hnot)
  | finish id outcome =>
    rcases finish_cases course.pools id outcome with h | ⟨progress, h, hnot⟩
    · simp only [act, h]
      exact .refl
    · simp only [act, h]
      exact .single (.advances course id progress hnot)
  | resume call => exact moves_resume course call
  | abandon call => exact absurd rfl (ha call)

theorem moves_acts {acts : List Act} (hacts : ∀ call, .abandon call ∉ acts) (course : Course) :
    Moves course (acts.foldl act course) := by
  induction acts generalizing course with
  | nil => exact .refl
  | cons a acts ih =>
    have ha : ∀ call, a ≠ .abandon call := by
      rintro call rfl
      exact hacts call List.mem_cons_self
    exact (moves_act course ha).trans (ih (fun call h => hacts call (List.mem_cons_of_mem _ h)) _)

end Course

/-! ## What lasts -/

/-- **What every move leaves alone**: the creations there are, as far as they have come. -/
def Extends (pools pools' : Pools) : Prop :=
  ∀ (id : Nat) (creation : Creation), pools.creations[id]? = some creation →
    ∃ creation' : Creation, pools'.creations[id]? = some creation' ∧
      creation'.name = creation.name ∧ creation'.database = creation.database ∧
      ∀ outcome, creation.progress = .ended outcome → creation'.progress = .ended outcome

variable {pools pools' : Pools}

theorem extends_of_creations (h : pools'.creations = pools.creations) : Extends pools pools' := by
  intro id creation hc
  exact ⟨creation, h ▸ hc, rfl, rfl, fun _ h => h⟩

theorem Extends.trans {pools'' : Pools} (h : Extends pools pools') (h' : Extends pools' pools'') :
    Extends pools pools'' := by
  intro id creation hc
  obtain ⟨creation', hc', hname, hdatabase, hended⟩ := h id creation hc
  obtain ⟨creation'', hc'', hname', hdatabase', hended'⟩ := h' id creation' hc'
  exact ⟨creation'', hc'', hname'.trans hname, hdatabase'.trans hdatabase,
    fun outcome ho => hended' outcome (hended outcome ho)⟩

theorem progress_ended_iff {id : Nat} {outcome : Except Fault Pool} :
    pools.progress id = .ended outcome ↔
      ∃ creation, pools.creations[id]? = some creation ∧ creation.progress = .ended outcome := by
  unfold progress
  cases pools.creations[id]? with
  | none => simp
  | some creation => simp

/-- An outcome stays. -/
theorem Extends.ended (h : Extends pools pools') {id : Nat} {outcome : Except Fault Pool}
    (hended : pools.progress id = .ended outcome) : pools'.progress id = .ended outcome := by
  obtain ⟨creation, hc, ho⟩ := progress_ended_iff.mp hended
  obtain ⟨creation', hc', -, -, hlasts⟩ := h id creation hc
  exact progress_ended_iff.mpr ⟨creation', hc', hlasts outcome ho⟩

theorem extends_advance {id : Nat} {progress : Progress} (h : ∀ outcome, pools.progress id ≠ .ended outcome) :
    Extends pools (pools.advance id progress) := by
  intro other creation hc
  by_cases hid : id = other
  · subst hid
    refine ⟨{ creation with progress := progress }, by simp [advance, hc], rfl, rfl, ?_⟩
    intro outcome ho
    exact absurd (progress_ended_iff.mpr ⟨creation, hc, ho⟩) (h outcome)
  · exact ⟨creation, by simp [advance, hid, hc], rfl, rfl, fun _ h => h⟩

theorem extends_create (pools : Pools) (name : String) (database : Database) :
    Extends pools (pools.create name database) := by
  intro id creation hc
  have hlt : id < pools.creations.length := (List.getElem?_eq_some_iff.mp hc).1
  exact ⟨creation, by simp [create, List.getElem?_append_left hlt, hc], rfl, rfl, fun _ h => h⟩

namespace Course

variable {course course' : Course}

theorem extends_move (h : Move course course') : Extends course.pools course'.pools := by
  cases h with
  | registers name database => exact extends_of_creations rfl
  | answers name ready outcome hready hfault => exact extends_of_creations rfl
  | joins name database creation hseeks hcurrent => exact extends_of_creations rfl
  | creates name database hseeks hcurrent => exact extends_create _ _ _
  | advances creation progress hnot => exact extends_advance hnot
  | serves call caller outcome hcall hended => exact extends_of_creations (creations_resume _ _)

/-- **No move undoes anything.** -/
theorem extends_moves (h : Moves course course') : Extends course.pools course'.pools := by
  induction h with
  | refl => exact extends_of_creations rfl
  | tail _ hmove ih => exact ih.trans (extends_move hmove)

/-! ## What the log tells -/

/-- **The log tells of every creation and of every call there is, once and in order**, and of no other. -/
structure Recorded (course : Course) : Prop where
  creations : course.log.filterMap Event.started? = (course.pools.creations.map Creation.name).zipIdx
  calls : course.log.filterMap Event.asked? = List.range course.calls.length

theorem eq_created_of_started? {event : Event} {id : Nat} {name : String} (h : event.started? = some (name, id)) :
    event = .created id name := by
  cases event with
  | created creation other => cases h; rfl
  | _ => cases h

theorem Recorded.created_mem_iff (h : Recorded course) {id : Nat} {name : String} :
    .created id name ∈ course.log ↔
      ∃ creation, course.pools.creations[id]? = some creation ∧ creation.name = name := by
  have hlisted : .created id name ∈ course.log ↔ (name, id) ∈ course.log.filterMap Event.started? := by
    rw [List.mem_filterMap]
    constructor
    · exact fun hmem => ⟨_, hmem, rfl⟩
    · rintro ⟨event, hmem, hstarted⟩
      exact eq_created_of_started? hstarted ▸ hmem
  rw [hlisted, h.creations, List.mem_zipIdx_iff_getElem?, List.getElem?_map, Option.map_eq_some_iff]

theorem Recorded.asked_lt (h : Recorded course) {call : Nat} {name : String} (hmem : .asked call name ∈ course.log) :
    call < course.calls.length := by
  have hcall : call ∈ course.log.filterMap Event.asked? := List.mem_filterMap.mpr ⟨_, hmem, rfl⟩
  rw [h.calls] at hcall
  exact List.mem_range.mp hcall

theorem Recorded.grow (h : Recorded course) {events : List Event} (hlog : course'.log = course.log ++ events)
    (hcreations : (course'.pools.creations.map Creation.name).zipIdx =
      (course.pools.creations.map Creation.name).zipIdx ++ events.filterMap Event.started?)
    (hcalls : List.range course'.calls.length = List.range course.calls.length ++ events.filterMap Event.asked?) :
    Recorded course' where
  creations := by rw [hlog, List.filterMap_append, h.creations, hcreations]
  calls := by rw [hlog, List.filterMap_append, h.calls, hcalls]

/-- What starts no creation and is no call is not told of. -/
theorem Recorded.aside (h : Recorded course) (hlog : course'.log = course.log)
    (hnames : course'.pools.creations.map Creation.name = course.pools.creations.map Creation.name)
    (hcalls : course'.calls.length = course.calls.length) : Recorded course' where
  creations := by rw [hlog, h.creations, hnames]
  calls := by rw [hlog, h.calls, hcalls]

theorem names_advance (pools : Pools) (id : Nat) (progress : Progress) :
    (pools.advance id progress).creations.map Creation.name = pools.creations.map Creation.name := by
  apply List.ext_getElem?
  intro other
  by_cases hid : id = other
  · simp [advance, hid, Function.comp_def]
  · simp [advance, hid]

theorem Recorded.move (h : Recorded course) (hmove : Move course course') : Recorded course' := by
  cases hmove with
  | registers name database => exact h.grow rfl (by simp [connect, Event.started?]) (by simp [Event.asked?])
  | answers name ready outcome hready hfault =>
    exact h.grow rfl (by simp [Event.started?]) (by simp [Event.asked?, List.range_succ])
  | joins name database creation hseeks hcurrent =>
    exact h.grow rfl (by simp [Event.started?]) (by simp [Event.asked?, List.range_succ])
  | creates name database hseeks hcurrent =>
    refine h.grow rfl ?_ (by simp [Event.asked?, List.range_succ])
    simp [create, Event.started?, List.zipIdx_append, List.filterMap_cons]
  | advances creation progress hnot => exact h.aside rfl (names_advance _ _ _) rfl
  | serves call caller outcome hcall hended => exact h.aside rfl (by rw [creations_resume]) (List.length_set ..)

theorem Recorded.moves (h : Recorded course) (hmoves : Moves course course') : Recorded course' := by
  induction hmoves with
  | refl => exact h
  | tail _ hmove ih => exact ih.move hmove

theorem Recorded.act (h : Recorded course) (a : Act) : Recorded (course.act a) := by
  by_cases habandon : ∃ call, a = .abandon call
  case neg => exact h.moves (moves_act course fun call heq => habandon ⟨call, heq⟩)
  obtain ⟨call, rfl⟩ := habandon
  rcases act_abandon_cases course call with hsame | ⟨caller, -, hact⟩
  · rwa [hsame]
  · rw [hact]
    exact h.aside rfl (by rw [creations_retire]) (List.length_set ..)

theorem Recorded.acts (h : Recorded course) (acts : List Act) : Recorded (acts.foldl Course.act course) := by
  induction acts generalizing course with
  | nil => exact h
  | cons a acts ih => exact ih (h.act a)

theorem recorded_after (acts : List Act) : Recorded (after acts) := by
  apply Recorded.acts
  exact ⟨rfl, rfl⟩

end Course

end ModelStore.Pools

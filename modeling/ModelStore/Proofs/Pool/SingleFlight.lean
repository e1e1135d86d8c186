import Mathlib.Data.List.Induction
import ModelStore.Proofs.Pool.Course

/-!
# One creation at a time

However calls, creations and registrations fall among each other, **at most one creation of a registration is
under way, none is started after one that gave a pool, and a caller gets what the creation it waited for gave**.
No caller is called off here.

What carries this is a relation between three tables and the past (`Flight`): of the creations started for a name
since it was registered, each may be joined, or has failed, or there is a pool at hand. A creation is started
only if none may be joined and no pool is at hand, hence only if all of them have failed. That a caller who gets a
pool leaves one at hand needs in turn that the name is still registered as it was when the caller asked, which
holds of the callers of every creation since (`Flight.owned`, `Waiting.waits`).

A fault is gone once a caller has it: that caller has closed the creation (`Waiting.joined`), and a creation that
is closed stays closed (`Past`).
-/

namespace ModelStore.Pools

open Course

/-! ## Creations of a registration -/

/-- The creations started since a name was registered, of which some are known, and then this happens. -/
def Event.note (name : String) (ids : List Nat) : Event → List Nat
  | .registered other _ => if other = name then [] else ids
  | .created creation other => if other = name then ids ++ [creation] else ids
  | .asked _ _ | .joined _ _ => ids

/-- The creations started for a name since it was last registered. -/
def since (name : String) (log : List Event) : List Nat := log.foldl (Event.note name) []

/-- A creation was started for a name after another, and the name was not registered in between. -/
def Follows (log : List Event) (name : String) (earlier later : Nat) : Prop :=
  ∃ before middle rest,
    log = before ++ .created earlier name :: (middle ++ .created later name :: rest) ∧
    ∀ database, .registered name database ∉ middle

def Failed (pools : Pools) (id : Nat) : Prop := ∃ fault, pools.progress id = .ended (.error fault)

theorem since_append (name : String) (log events : List Event) :
    since name (log ++ events) = events.foldl (Event.note name) (since name log) :=
  List.foldl_append

theorem mem_foldl_note {name : String} {id : Nat} {events : List Event}
    (h : ∀ database, .registered name database ∉ events) {ids : List Nat} (hid : id ∈ ids) :
    id ∈ events.foldl (Event.note name) ids := by
  induction events generalizing ids with
  | nil => exact hid
  | cons event rest ih =>
    have hrest : ∀ database, .registered name database ∉ rest :=
      fun database hmem => h database (List.mem_cons_of_mem _ hmem)
    have hkept : id ∈ Event.note name ids event := by
      cases event with
      | registered other database =>
        have hne : other ≠ name := by
          rintro rfl
          exact h database List.mem_cons_self
        simpa [Event.note, hne] using hid
      | created creation other =>
        simp only [Event.note]
        split
        · exact List.mem_append_left _ hid
        · exact hid
      | asked call other => exact hid
      | joined call creation => exact hid
    exact ih hrest hkept

/-- What is started while the name is not registered anew is among those since the registration. -/
theorem mem_foldl_note_of_created {name : String} {id : Nat} {events : List Event}
    (h : ∀ database, .registered name database ∉ events) (hcreated : .created id name ∈ events) (ids : List Nat) :
    id ∈ events.foldl (Event.note name) ids := by
  obtain ⟨before, rest, rfl⟩ := List.append_of_mem hcreated
  rw [List.foldl_append, List.foldl_cons]
  refine mem_foldl_note (fun database hmem => h database ?_) (by simp [Event.note])
  exact List.mem_append_right _ (List.mem_cons_of_mem _ hmem)

theorem created_of_mem_since {name : String} {id : Nat} {log : List Event} (h : id ∈ since name log) :
    .created id name ∈ log := by
  induction log using List.reverseRecOn with
  | nil => exact absurd h List.not_mem_nil
  | append_singleton log event ih =>
    rw [since_append, List.foldl_cons, List.foldl_nil] at h
    cases event with
    | asked call other => exact List.mem_append_left _ (ih h)
    | joined call creation => exact List.mem_append_left _ (ih h)
    | registered other database =>
      simp only [Event.note] at h
      split at h
      · exact absurd h List.not_mem_nil
      · exact List.mem_append_left _ (ih h)
    | created creation other =>
      simp only [Event.note] at h
      split at h
      case isFalse => exact List.mem_append_left _ (ih h)
      case isTrue hname =>
        rcases List.mem_append.mp h with hold | hnew
        · exact List.mem_append_left _ (ih hold)
        · obtain rfl := List.mem_singleton.mp hnew
          exact List.mem_append_right _ (List.mem_singleton.mpr (by rw [hname]))

/-- What follows a creation finds it among those since the registration. -/
theorem Follows.mem_since {log : List Event} {name : String} {earlier later : Nat}
    (h : Follows log name earlier later) :
    ∃ before, before ++ [.created later name] <+: log ∧ earlier ∈ since name before := by
  obtain ⟨before, middle, rest, rfl, hmiddle⟩ := h
  refine ⟨before ++ .created earlier name :: middle, ⟨rest, by simp⟩, ?_⟩
  rw [since_append, List.foldl_cons]
  exact mem_foldl_note hmiddle (by simp [Event.note])

/-- Events that tell of callers only. -/
def Event.Quiet : Event → Prop
  | .asked _ _ | .joined _ _ => True
  | .registered _ _ | .created _ _ => False

theorem since_quiet {events : List Event} (h : ∀ event ∈ events, event.Quiet) (name : String)
    (log : List Event) : since name (log ++ events) = since name log := by
  rw [since_append]
  generalize since name log = ids
  induction events with
  | nil => rfl
  | cons event rest ih =>
    have hevent : Event.note name ids event = ids := by
      cases event with
      | registered other database => exact absurd (h _ List.mem_cons_self) (by simp [Event.Quiet])
      | created creation other => exact absurd (h _ List.mem_cons_self) (by simp [Event.Quiet])
      | asked call other => rfl
      | joined call creation => rfl
    rw [List.foldl_cons, hevent]
    exact ih fun event hmem => h event (List.mem_cons_of_mem _ hmem)

theorem mem_since_registered {name other : String} {database : Database} {log : List Event} {id : Nat} :
    id ∈ since other (log ++ [.registered name database]) ↔ other ≠ name ∧ id ∈ since other log := by
  by_cases hname : name = other
  · simp [since_append, Event.note, hname]
  · simp [since_append, Event.note, hname, Ne.symm hname]

theorem mem_since_created {name other : String} {log : List Event} {call creation id : Nat} :
    id ∈ since other (log ++ [.asked call name, .created creation name, .joined call creation]) ↔
      id ∈ since other log ∨ (other = name ∧ id = creation) := by
  by_cases hname : name = other
  · simp [since_append, Event.note, hname]
  · simp [since_append, Event.note, hname, Ne.symm hname]

/-- A creation that is not among the new events was there before them. -/
theorem prefix_of_not_mem {before log events : List Event} {event : Event} (h : event ∉ events)
    (hp : before ++ [event] <+: log ++ events) : before ++ [event] <+: log := by
  induction events using List.reverseRecOn with
  | nil => simpa using hp
  | append_singleton events last ih =>
    rw [← List.append_assoc, List.prefix_concat_iff] at hp
    rcases hp with heq | hp
    · obtain ⟨-, hlast⟩ := List.append_inj' heq rfl
      exact absurd (by simp_all) h
    · exact ih (fun hmem => h (List.mem_append_left _ hmem)) hp

/-! ## The tables and the past -/

structure Flight (course : Course) : Prop where
  owned : ∀ {name id}, id ∈ since name course.log → ∃ creation, course.pools.creations[id]? = some creation ∧
    creation.name = name ∧ course.pools.databases.get? name = some creation.database
  current : ∀ {name id}, course.pools.current.get? name = some id → id ∈ since name course.log
  settled : ∀ {name id}, id ∈ since name course.log →
    course.pools.current.get? name = some id ∨ course.pools.Failed id ∨ course.pools.ready.get? name ≠ none
  earlier : ∀ {before name later}, before ++ [.created later name] <+: course.log →
    ∀ id ∈ since name before, course.pools.Failed id

structure Waiting (course : Course) : Prop where
  waits : ∀ {call caller}, course.calls[call]? = some (.waits caller) →
    .joined call caller.creation ∈ course.log ∧
    ∃ creation, course.pools.creations[caller.creation]? = some creation ∧
      creation.name = caller.name ∧ creation.database = caller.database
  joined : ∀ {call id}, .joined call id ∈ course.log →
    (∃ caller, course.calls[call]? = some (.waits caller) ∧ caller.creation = id) ∨
    ∃ outcome, course.calls[call]? = some (.served outcome) ∧ course.pools.progress id = .ended outcome ∧
      ∀ name, course.pools.current.get? name ≠ some id
  refused : ∀ {call fault}, course.calls[call]? = some (.served (.error fault)) →
    (∃ id, .joined call id ∈ course.log) ∨ ∃ name, .asked call name ∈ course.log ∧ fault = Fault.noConnection name

variable {course course' : Course}

theorem Extends.failed {pools pools' : Pools} (h : Extends pools pools') {id : Nat} (hfailed : pools.Failed id) :
    pools'.Failed id := by
  obtain ⟨fault, hended⟩ := hfailed
  exact ⟨fault, h.ended hended⟩

/-- A waiting caller's creation belongs to its name and to what was registered under it. -/
theorem Flight.owner {call id : Nat} {caller : Caller} {name : String} (hflight : Flight course)
    (hwaiting : Waiting course) (hcall : course.calls[call]? = some (.waits caller))
    (hid : id ∈ since name course.log) (heq : caller.creation = id) :
    caller.name = name ∧ course.pools.databases.get? name = some caller.database := by
  obtain ⟨creation, hc, hname, hdatabase⟩ := hflight.owned hid
  obtain ⟨-, creation', hc', hname', hdatabase'⟩ := hwaiting.waits hcall
  obtain rfl : creation' = creation := by
    rw [heq, hc] at hc'
    exact (Option.some.inj hc').symm
  exact ⟨hname'.symm.trans hname, hdatabase' ▸ hdatabase⟩

/-- What was served cannot be joined. -/
theorem current_resume_ne_of_waits {call : Nat} {caller : Caller} {outcome : Except Fault Pool}
    (hflight : Flight course) (hwaiting : Waiting course) (hcall : course.calls[call]? = some (.waits caller))
    (hended : course.pools.progress caller.creation = .ended outcome) (name : String) :
    (course.pools.resume caller).1.current.get? name ≠ some caller.creation := by
  rw [current_resume _ _ hended]
  intro hcurrent
  have hid := hflight.current (current_of_retire _ _ hcurrent)
  obtain ⟨rfl, -⟩ := hflight.owner hwaiting hcall hid rfl
  exact current_retire_ne _ _ hended hcurrent

/-! ## Flight is kept -/

theorem Flight.earlier_of_log (h : Flight course) {events : List Event} {pools : Pools}
    (hextends : Extends course.pools pools) (hno : ∀ id name, .created id name ∉ events) {before : List Event}
    {name : String} {later : Nat} (hp : before ++ [.created later name] <+: course.log ++ events) :
    ∀ id ∈ since name before, pools.Failed id := by
  intro id hid
  exact hextends.failed (h.earlier (prefix_of_not_mem (hno _ _) hp) id hid)

/-- What tells of callers only, loses nothing and closes no creation but what it may keeps all. -/
theorem Flight.quiet (h : Flight course) {events : List Event} (hevents : ∀ event ∈ events, event.Quiet)
    {pools : Pools} (hextends : Extends course.pools pools) (hdatabases : pools.databases = course.pools.databases)
    (hcurrent : ∀ {name id}, pools.current.get? name = some id → course.pools.current.get? name = some id)
    (hsettled : ∀ {name id}, id ∈ since name course.log →
      pools.current.get? name = some id ∨ pools.Failed id ∨ pools.ready.get? name ≠ none)
    (calls : List Standing) : Flight ⟨pools, calls, course.log ++ events⟩ := by
  have hno : ∀ id name, .created id name ∉ events := by
    intro id name hmem
    exact hevents _ hmem
  refine ⟨?_, ?_, ?_, h.earlier_of_log hextends hno⟩
  · intro name id hid
    rw [since_quiet hevents] at hid
    obtain ⟨creation, hc, hname, hdatabase⟩ := h.owned hid
    obtain ⟨creation', hc', hname', hdatabase', -⟩ := hextends id creation hc
    refine ⟨creation', hc', hname'.trans hname, ?_⟩
    rw [hdatabases, hdatabase', hdatabase]
  · intro name id hcurrent'
    rw [since_quiet hevents]
    exact h.current (hcurrent hcurrent')
  · intro name id hid
    rw [since_quiet hevents] at hid
    exact hsettled hid

theorem Flight.settled_of_extends (h : Flight course) {pools : Pools} (hextends : Extends course.pools pools)
    (hcurrent : pools.current = course.pools.current)
    (hready : ∀ name, course.pools.ready.get? name ≠ none → pools.ready.get? name ≠ none)
    {name : String} {id : Nat} (hid : id ∈ since name course.log) :
    pools.current.get? name = some id ∨ pools.Failed id ∨ pools.ready.get? name ≠ none := by
  rcases h.settled hid with hjoin | hfailed | hsome
  · exact .inl (hcurrent ▸ hjoin)
  · exact .inr (.inl (hextends.failed hfailed))
  · exact .inr (.inr (hready name hsome))

theorem Flight.registers (h : Flight course) (name : String) (database : Database) :
    Flight ⟨course.pools.connect name database, course.calls, course.log ++ [.registered name database]⟩ := by
  refine ⟨?_, ?_, ?_, h.earlier_of_log (extends_of_creations rfl) (by simp)⟩
  · intro other id hid
    obtain ⟨hne, hid⟩ := mem_since_registered.mp hid
    obtain ⟨creation, hc, hcname, hdatabase⟩ := h.owned hid
    refine ⟨creation, hc, hcname, ?_⟩
    rwa [connect, Association.get?_set_of_ne _ _ hne]
  · intro other id hcurrent
    refine mem_since_registered.mpr ⟨?_, h.current (Association.get?_of_erase hcurrent)⟩
    rintro rfl
    rw [current_connect] at hcurrent
    cases hcurrent
  · intro other id hid
    obtain ⟨hne, hid⟩ := mem_since_registered.mp hid
    simp only [connect, Association.get?_erase_of_ne _ hne]
    exact h.settled hid

/-- **A creation is started only if all before it have failed.** -/
theorem Flight.failed_of_seeks (h : Flight course) {name : String} {database : Database}
    (hseeks : course.pools.seeks? name = some database) (hnone : course.pools.current.get? name = none) {id : Nat}
    (hid : id ∈ since name course.log) : course.pools.Failed id := by
  rcases h.settled hid with hcurrent | hfailed | hsome
  · rw [hnone] at hcurrent
    cases hcurrent
  · exact hfailed
  · exact absurd (of_seeks hseeks).1 hsome

/-- A creation in a log that ends with one is that one, or it was there before. -/
theorem prefix_created {before log : List Event} {call creation later : Nat} {name other : String}
    (hp : before ++ [.created later other] <+: log ++ [.asked call name, .created creation name,
      .joined call creation]) :
    (before = log ++ [.asked call name] ∧ other = name) ∨ before ++ [.created later other] <+: log := by
  have hno : Event.created later other ∉ [.joined call creation] := by simp
  have hp' : before ++ [.created later other] <+: (log ++ [.asked call name]) ++ [.created creation name] :=
    prefix_of_not_mem hno (by simpa using hp)
  rw [List.prefix_concat_iff] at hp'
  rcases hp' with heq | hp'
  · obtain ⟨hbefore, hlast⟩ := List.append_inj' heq rfl
    obtain ⟨-, rfl⟩ : later = creation ∧ other = name := by simpa using hlast
    exact .inl ⟨hbefore, rfl⟩
  · exact .inr (prefix_of_not_mem (by simp) hp')

theorem Flight.creates (h : Flight course) {name : String} {database : Database}
    (hseeks : course.pools.seeks? name = some database) (hnone : course.pools.current.get? name = none)
    (calls : List Standing) :
    Flight ⟨course.pools.create name database, calls,
      course.log ++ [.asked course.calls.length name, .created course.pools.creations.length name,
        .joined course.calls.length course.pools.creations.length]⟩ := by
  have hextends := extends_create course.pools name database
  refine ⟨?_, ?_, ?_, ?_⟩
  · intro other id hid
    rcases mem_since_created.mp hid with hid | ⟨rfl, rfl⟩
    · obtain ⟨creation, hc, hcname, hcdatabase⟩ := h.owned hid
      obtain ⟨creation', hc', hname', hdatabase', -⟩ := hextends id creation hc
      exact ⟨creation', hc', hname'.trans hcname, hdatabase' ▸ hcdatabase⟩
    · exact ⟨⟨other, database, .waiting⟩, by simp [create], rfl, (of_seeks hseeks).2⟩
  · intro other id hcurrent
    rcases of_current_create hcurrent with hnew | hcurrent
    · exact mem_since_created.mpr (.inr hnew)
    · exact mem_since_created.mpr (.inl (h.current hcurrent))
  · intro other id hid
    by_cases hname : other = name
    · subst hname
      rcases mem_since_created.mp hid with hid | ⟨-, rfl⟩
      · exact .inr (.inl (hextends.failed (h.failed_of_seeks hseeks hnone hid)))
      · exact .inl (Association.get?_set_self _ _ _)
    · rcases mem_since_created.mp hid with hid | ⟨rfl, -⟩
      · simp only [create, Association.get?_set_of_ne _ _ hname]
        exact (h.settled hid).imp_right (Or.imp_left hextends.failed)
      · exact absurd rfl hname
  · intro before other later hp id hid
    refine hextends.failed ?_
    rcases prefix_created hp with ⟨rfl, rfl⟩ | hp
    · rw [since_quiet (by simp [Event.Quiet])] at hid
      exact h.failed_of_seeks hseeks hnone hid
    · exact h.earlier hp id hid

/-- **A creation that is closed has failed, or its pool is at hand.** -/
theorem Flight.settled_of_resume (h : Flight course) (hwaiting : Waiting course) {call : Nat} {caller : Caller}
    {outcome : Except Fault Pool} (hcall : course.calls[call]? = some (.waits caller))
    (hended : course.pools.progress caller.creation = .ended outcome) {name : String} {id : Nat}
    (hid : id ∈ since name course.log) :
    (course.pools.resume caller).1.current.get? name = some id ∨ (course.pools.resume caller).1.Failed id ∨
      (course.pools.resume caller).1.ready.get? name ≠ none := by
  have hextends : Extends course.pools (course.pools.resume caller).1 :=
    extends_of_creations (creations_resume _ _)
  rcases h.settled hid with hcurrent | hfailed | hsome
  · by_cases heq : caller.creation = id
    · subst heq
      obtain ⟨rfl, hdatabase⟩ := h.owner hwaiting hcall hid rfl
      cases outcome with
      | ok pool =>
        refine .inr (.inr ?_)
        rw [ready_resume _ _ hended hdatabase]
        simp
      | error fault => exact .inr (.inl ⟨fault, hextends.ended hended⟩)
    · refine .inl ?_
      rw [current_resume _ _ hended, current_retire_of_ne _ _ (by simpa [hcurrent] using Ne.symm heq), hcurrent]
  · exact .inr (.inl (hextends.failed hfailed))
  · exact .inr (.inr (ready_resume_of_ready _ _ hsome))

theorem Flight.move (h : Flight course) (hwaiting : Waiting course) (hmove : Move course course') :
    Flight course' := by
  have hextends := extends_move hmove
  cases hmove with
  | registers name database => exact h.registers name database
  | answers name ready outcome hready hfault =>
    exact h.quiet (by simp [Event.Quiet]) hextends rfl (fun h' => h')
      (h.settled_of_extends hextends rfl hready) _
  | joins name database creation hseeks hcurrent =>
    exact h.quiet (by simp [Event.Quiet]) hextends rfl (fun h' => h')
      (h.settled_of_extends hextends rfl fun _ h' => h') _
  | creates name database hseeks hnone => exact h.creates hseeks hnone _
  | advances creation progress hnot =>
    simpa using h.quiet (List.forall_mem_nil _) hextends rfl (fun h' => h')
      (h.settled_of_extends hextends rfl fun _ h' => h') course.calls
  | serves call caller outcome hcall hended =>
    have hcurrent : ∀ {name id}, (course.pools.resume caller).1.current.get? name = some id →
        course.pools.current.get? name = some id := by
      intro name id hcurrent
      rw [current_resume _ _ hended] at hcurrent
      exact current_of_retire _ _ hcurrent
    simpa using h.quiet (List.forall_mem_nil _) hextends (databases_resume _ _) hcurrent
      (h.settled_of_resume hwaiting hcall hended) (course.calls.set call (.served outcome))

/-! ## So is waiting -/

theorem Waiting.lt (h : Waiting course) {call id : Nat} (hjoined : .joined call id ∈ course.log) :
    call < course.calls.length := by
  rcases h.joined hjoined with ⟨caller, hcall, -⟩ | ⟨outcome, hcall, -⟩
  · exact (List.getElem?_eq_some_iff.mp hcall).1
  · exact (List.getElem?_eq_some_iff.mp hcall).1

/-- **Calls go on standing as they did**, and new ones wait for what they joined, or were refused. -/
theorem Waiting.grow (h : Waiting course) {pools : Pools} {calls : List Standing} {events : List Event}
    (hextends : Extends course.pools pools)
    (hclosed : ∀ {name id}, id < course.pools.creations.length → pools.current.get? name = some id →
      course.pools.current.get? name = some id)
    (hkept : ∀ {call : Nat} {standing : Standing},
      course.calls[call]? = some standing → calls[call]? = some standing)
    (hwaits : ∀ {call : Nat} {caller : Caller}, calls[call]? = some (.waits caller) →
      course.calls[call]? = some (.waits caller) ∨
      .joined call caller.creation ∈ events ∧ ∃ creation, pools.creations[caller.creation]? = some creation ∧
        creation.name = caller.name ∧ creation.database = caller.database)
    (hjoined : ∀ {call id : Nat}, .joined call id ∈ events →
      ∃ caller, calls[call]? = some (.waits caller) ∧ caller.creation = id)
    (hrefused : ∀ {call : Nat} {fault : Fault}, calls[call]? = some (.served (.error fault)) →
      course.calls[call]? = some (.served (.error fault)) ∨
      ∃ name, .asked call name ∈ events ∧ fault = Fault.noConnection name) :
    Waiting ⟨pools, calls, course.log ++ events⟩ := by
  refine ⟨?_, ?_, ?_⟩
  · intro call caller hcall
    rcases hwaits hcall with hcall | ⟨hmem, hcreation⟩
    · obtain ⟨hmem, creation, hc, hname, hdatabase⟩ := h.waits hcall
      obtain ⟨creation', hc', hname', hdatabase', -⟩ := hextends _ creation hc
      exact ⟨List.mem_append_left _ hmem, creation', hc', hname'.trans hname, hdatabase'.trans hdatabase⟩
    · exact ⟨List.mem_append_right _ hmem, hcreation⟩
  · intro call id hmem
    rcases List.mem_append.mp hmem with hmem | hmem
    · rcases h.joined hmem with ⟨caller, hcall, hid⟩ | ⟨outcome, hcall, hended, hnot⟩
      · exact .inl ⟨caller, hkept hcall, hid⟩
      · refine .inr ⟨outcome, hkept hcall, hextends.ended hended, ?_⟩
        intro name hcurrent
        obtain ⟨creation, hc, -⟩ := progress_ended_iff.mp hended
        exact hnot name (hclosed (List.getElem?_eq_some_iff.mp hc).1 hcurrent)
    · exact .inl (hjoined hmem)
  · intro call fault hcall
    rcases hrefused hcall with hcall | ⟨name, hmem, hfault⟩
    · rcases h.refused hcall with ⟨id, hmem⟩ | ⟨name, hmem, hfault⟩
      · exact .inl ⟨id, List.mem_append_left _ hmem⟩
      · exact .inr ⟨name, List.mem_append_left _ hmem, hfault⟩
    · exact .inr ⟨name, List.mem_append_right _ hmem, hfault⟩

/-- Nothing is said of a call. -/
theorem Waiting.keeps (h : Waiting course) {pools : Pools} {events : List Event}
    (hextends : Extends course.pools pools)
    (hclosed : ∀ {name id}, pools.current.get? name = some id → course.pools.current.get? name = some id)
    (hjoined : ∀ call id, .joined call id ∉ events) : Waiting ⟨pools, course.calls, course.log ++ events⟩ :=
  h.grow hextends (fun _ h' => hclosed h') (fun h' => h') .inl (fun h' => absurd h' (hjoined _ _)) .inl

theorem Waiting.answers (h : Waiting course) {name : String} {ready : Association Pool}
    {outcome : Except Fault Pool} (hfault : ∀ fault, outcome = .error fault → fault = Fault.noConnection name) :
    Waiting ⟨{ course.pools with ready := ready }, course.calls ++ [.served outcome],
      course.log ++ [.asked course.calls.length name]⟩ := by
  refine h.grow (extends_of_creations rfl) (fun _ h' => h') (fun h' => standing_concat h' _) ?_ (by simp) ?_
  · intro call caller hcall
    rcases standing_of_concat hcall with hcall | ⟨-, hlast⟩
    · exact .inl hcall
    · cases hlast
  · intro call fault hcall
    rcases standing_of_concat hcall with hcall | ⟨rfl, hlast⟩
    · exact .inl hcall
    · cases hlast
      exact .inr ⟨name, by simp, hfault fault rfl⟩

/-- A caller waits for a creation of its name, from what is registered. -/
theorem Waiting.joining (h : Waiting course) {pools : Pools} {events : List Event} {caller : Caller}
    (hextends : Extends course.pools pools)
    (hclosed : ∀ {name id}, id < course.pools.creations.length → pools.current.get? name = some id →
      course.pools.current.get? name = some id)
    (hjoined : ∀ {call id}, .joined call id ∈ events ↔ call = course.calls.length ∧ id = caller.creation)
    (hcreation : ∃ creation, pools.creations[caller.creation]? = some creation ∧
      creation.name = caller.name ∧ creation.database = caller.database) :
    Waiting ⟨pools, course.calls ++ [.waits caller], course.log ++ events⟩ := by
  refine h.grow hextends hclosed (fun h' => standing_concat h' _) ?_ ?_ ?_
  · intro call caller' hcall
    rcases standing_of_concat hcall with hcall | ⟨rfl, hlast⟩
    · exact .inl hcall
    · cases hlast
      exact .inr ⟨hjoined.mpr ⟨rfl, rfl⟩, hcreation⟩
  · intro call id hmem
    obtain ⟨rfl, rfl⟩ := hjoined.mp hmem
    exact ⟨caller, by simp, rfl⟩
  · intro call fault hcall
    rcases standing_of_concat hcall with hcall | ⟨-, hlast⟩
    · exact .inl hcall
    · cases hlast

/-- **Who waited gets what the creation gave**, and closes it. -/
theorem Waiting.serves (h : Waiting course) (hflight : Flight course) {call : Nat} {caller : Caller}
    {outcome : Except Fault Pool} (hcall : course.calls[call]? = some (.waits caller))
    (hended : course.pools.progress caller.creation = .ended outcome) :
    Waiting ⟨(course.pools.resume caller).1, course.calls.set call (.served outcome), course.log⟩ := by
  have hextends : Extends course.pools (course.pools.resume caller).1 :=
    extends_of_creations (creations_resume _ _)
  have hlt := (List.getElem?_eq_some_iff.mp hcall).1
  have hself : (course.calls.set call (.served outcome))[call]? = some (.served outcome) := by simp [hlt]
  have hother : ∀ other, call ≠ other → (course.calls.set call (.served outcome))[other]? = course.calls[other]? :=
    fun other hne => List.getElem?_set_ne hne
  refine ⟨?_, ?_, ?_⟩
  · intro other caller' hother'
    by_cases heq : call = other
    · subst heq
      rw [hself] at hother'
      cases hother'
    · obtain ⟨hmem, creation, hc, hcreation⟩ := h.waits (hother other heq ▸ hother')
      exact ⟨hmem, creation, by rw [creations_resume, hc], hcreation⟩
  · intro other id hmem
    by_cases heq : call = other
    · subst heq
      rcases h.joined hmem with ⟨caller', hcall', rfl⟩ | ⟨outcome', hcall', -⟩
      · obtain rfl : caller = caller' := by simpa [hcall] using hcall'
        exact .inr ⟨outcome, hself, hextends.ended hended, current_resume_ne_of_waits hflight h hcall hended⟩
      · rw [hcall] at hcall'
        cases hcall'
    · rcases h.joined hmem with ⟨caller', hcall', hid⟩ | ⟨outcome', hcall', hended', hclosed⟩
      · exact .inl ⟨caller', by rw [hother other heq, hcall'], hid⟩
      · refine .inr ⟨outcome', by rw [hother other heq, hcall'], hextends.ended hended', ?_⟩
        intro name hcurrent
        rw [current_resume _ _ hended] at hcurrent
        exact hclosed name (current_of_retire _ _ hcurrent)
  · intro other fault hother'
    by_cases heq : call = other
    · subst heq
      exact .inl ⟨_, (h.waits hcall).1⟩
    · exact h.refused (hother other heq ▸ hother')

theorem Waiting.move (h : Waiting course) (hflight : Flight course) (hmove : Move course course') :
    Waiting course' := by
  have hextends := extends_move hmove
  cases hmove with
  | registers name database =>
    exact h.keeps hextends (fun h' => Association.get?_of_erase h') (by simp)
  | answers name ready outcome hready hfault => exact h.answers hfault
  | joins name database creation hseeks hcurrent =>
    obtain ⟨found, hc, hname, hdatabase⟩ := hflight.owned (hflight.current hcurrent)
    refine h.joining hextends (fun _ h' => h') (by simp) ⟨found, hc, hname, ?_⟩
    rw [(of_seeks hseeks).2] at hdatabase
    exact (Option.some.inj hdatabase).symm
  | creates name database hseeks hnone =>
    refine h.joining hextends ?_ (by simp) ⟨⟨name, database, .waiting⟩, by simp [create], rfl, rfl⟩
    intro other id hlt hcurrent
    rcases of_current_create hcurrent with ⟨-, rfl⟩ | hcurrent
    · exact absurd hlt (Nat.lt_irrefl _)
    · exact hcurrent
  | advances creation progress hnot =>
    simpa using h.keeps hextends (fun h' => h') (fun _ _ => List.not_mem_nil)
  | serves call caller outcome hcall hended => exact h.serves hflight hcall hended

/-! ## Every course -/

theorem flight_waiting_moves (h : Moves course course') (hflight : Flight course) (hwaiting : Waiting course) :
    Flight course' ∧ Waiting course' := by
  induction h with
  | refl => exact ⟨hflight, hwaiting⟩
  | tail _ hmove ih => exact ⟨ih.1.move ih.2 hmove, ih.2.move ih.1 hmove⟩

theorem flight_waiting_after {acts : List Act} (hacts : ∀ call, .abandon call ∉ acts) :
    Flight (after acts) ∧ Waiting (after acts) := by
  refine flight_waiting_moves (moves_acts hacts _) ⟨?_, ?_, ?_, ?_⟩ ⟨?_, ?_, ?_⟩
  · intro name id hid
    simp [since] at hid
  · intro name id hcurrent
    simp [empty, Association.get?] at hcurrent
  · intro name id hid
    simp [since] at hid
  · intro before name later hp
    simp at hp
  · intro call caller hcall
    simp at hcall
  · intro call id hmem
    simp at hmem
  · intro call fault hcall
    simp at hcall

/-! ## What is over -/

/-- A creation is closed, and no call from a given one on has waited for it. -/
structure Past (id first : Nat) (course : Course) : Prop where
  known : id < course.pools.creations.length
  closed : ∀ name, course.pools.current.get? name ≠ some id
  missed : ∀ call, first ≤ call → .joined call id ∉ course.log

theorem Past.move {id first : Nat} (h : Past id first course) (hmove : Move course course') :
    Past id first course' := by
  have hknown : id < course'.pools.creations.length := by
    obtain ⟨creation', hc', -⟩ := extends_move hmove id _ (List.getElem?_eq_getElem h.known)
    exact (List.getElem?_eq_some_iff.mp hc').1
  refine ⟨hknown, ?_, ?_⟩
  · intro name hcurrent
    cases hmove with
    | registers other database => exact h.closed name (Association.get?_of_erase hcurrent)
    | answers other ready outcome hready hfault => exact h.closed name hcurrent
    | joins other database creation hseeks hjoin => exact h.closed name hcurrent
    | creates other database hseeks hnone =>
      rcases of_current_create hcurrent with ⟨-, rfl⟩ | hcurrent
      · exact absurd h.known (Nat.lt_irrefl _)
      · exact h.closed name hcurrent
    | advances creation progress hnot => exact h.closed name hcurrent
    | serves call caller outcome hcall hended =>
      rw [current_resume _ _ hended] at hcurrent
      exact h.closed name (current_of_retire _ _ hcurrent)
  · intro call hfirst hmem
    have hold := h.missed call hfirst
    cases hmove with
    | registers other database => exact hold (by simpa using hmem)
    | answers other ready outcome hready hfault => exact hold (by simpa using hmem)
    | joins other database creation hseeks hjoin =>
      rcases List.mem_append.mp hmem with hmem | hmem
      · exact hold hmem
      · obtain ⟨-, rfl⟩ : call = course.calls.length ∧ id = creation := by simpa using hmem
        exact h.closed other hjoin
    | creates other database hseeks hnone =>
      rcases List.mem_append.mp hmem with hmem | hmem
      · exact hold hmem
      · obtain ⟨-, rfl⟩ : call = course.calls.length ∧ id = course.pools.creations.length := by simpa using hmem
        exact absurd h.known (Nat.lt_irrefl _)
    | advances creation progress hnot => exact hold hmem
    | serves call caller outcome hcall hended => exact hold hmem

theorem Past.moves {id first : Nat} (h : Past id first course) (hmoves : Moves course course') :
    Past id first course' := by
  induction hmoves with
  | refl => exact h
  | tail _ hmove ih => exact ih.move hmove

/-- **A fault that a caller has been given is over.** -/
theorem past_of_served (hwaiting : Waiting course) {call creation : Nat}
    {outcome : Except Fault Pool} (hjoined : .joined call creation ∈ course.log)
    (hserved : course.calls[call]? = some (.served outcome)) : Past creation course.calls.length course := by
  rcases hwaiting.joined hjoined with ⟨caller, hcall, -⟩ | ⟨outcome', -, hended, hclosed⟩
  · rw [hserved] at hcall
    cases hcall
  · obtain ⟨found, hc, -⟩ := progress_ended_iff.mp hended
    refine ⟨(List.getElem?_eq_some_iff.mp hc).1, hclosed, ?_⟩
    intro later hlater hmem
    have := hwaiting.lt hmem
    omega

/-! ## The theorem -/

theorem Follows.failed (hflight : Flight course) {name : String} {earlier later : Nat}
    (h : Follows course.log name earlier later) : course.pools.Failed earlier := by
  obtain ⟨before, hp, hearlier⟩ := h.mem_since
  exact hflight.earlier hp earlier hearlier

/-- A waiting caller goes on as soon as the creation has ended. -/
theorem served_of_resume {call : Nat} {caller : Caller} {outcome : Except Fault Pool}
    (hcall : course.calls[call]? = some (.waits caller))
    (hended : course.pools.progress caller.creation = .ended outcome) :
    (course.act (.resume call)).calls[call]? = some (.served outcome) := by
  rw [act_resume_of_waits hcall, resume_of_ended _ _ hended]
  simp [(List.getElem?_eq_some_iff.mp hcall).1]

/-- **One creation at a time.** Of two creations that were started for a name while it was registered once, the
earlier has failed; so there is at most one that has not ended, and none is started after one that gave a pool. The
creations that the log tells of are all there are, in the order in which they were started.
Whoever has waited for a creation was given its outcome, or still waits, and is given it when it goes on. And
once a caller was given a creation's fault, no later call waits for that creation, so that a fault which a later
call is given is that of another creation, or says that nothing is registered. -/
theorem single_flight {acts more : List Act} (hacts : ∀ call, .abandon call ∉ acts ++ more) :
    (after acts).log.filterMap Event.started? = ((after acts).pools.creations.map Creation.name).zipIdx ∧
    (∀ name earlier later, Follows (after acts).log name earlier later →
      ∃ fault, (after acts).pools.progress earlier = .ended (.error fault)) ∧
    (∀ name earlier later pool, (after acts).pools.progress earlier = .ended (.ok pool) →
      ¬ Follows (after (acts ++ more)).log name earlier later) ∧
    (∀ call caller, (after acts).calls[call]? = some (.waits caller) →
      .joined call caller.creation ∈ (after acts).log) ∧
    (∀ call creation, .joined call creation ∈ (after acts).log →
      (∃ outcome, (after acts).calls[call]? = some (.served outcome) ∧
        (after acts).pools.progress creation = .ended outcome) ∨
      (∃ caller, (after acts).calls[call]? = some (.waits caller) ∧ caller.creation = creation ∧
        ∀ outcome, (after acts).pools.progress creation = .ended outcome →
          (after (acts ++ [.resume call])).calls[call]? = some (.served outcome))) ∧
    ∀ call creation fault, .joined call creation ∈ (after acts).log →
      (after acts).calls[call]? = some (.served (.error fault)) →
      ∀ later, (after acts).calls.length ≤ later →
        .joined later creation ∉ (after (acts ++ more)).log ∧
        ∀ fault', (after (acts ++ more)).calls[later]? = some (.served (.error fault')) →
          (∃ name, .asked later name ∈ (after (acts ++ more)).log ∧ fault' = Fault.noConnection name) ∨
          ∃ other, other ≠ creation ∧ .joined later other ∈ (after (acts ++ more)).log ∧
            (after (acts ++ more)).pools.progress other = .ended (.error fault') := by
  have hfirst : ∀ call, .abandon call ∉ acts := fun call h => hacts call (List.mem_append_left _ h)
  have hsecond : ∀ call, .abandon call ∉ more := fun call h => hacts call (List.mem_append_right _ h)
  obtain ⟨hflight, hwaiting⟩ := flight_waiting_after hfirst
  obtain ⟨hflight', hwaiting'⟩ := flight_waiting_after hacts
  have hmoves : Moves (after acts) (after (acts ++ more)) := by
    rw [after_append]
    exact moves_acts hsecond _
  refine ⟨(recorded_after acts).creations, fun name earlier later h => h.failed hflight, ?_,
    fun call caller h => (hwaiting.waits h).1, ?_, ?_⟩
  · intro name earlier later pool hended hfollows
    have hok := (extends_moves hmoves).ended hended
    obtain ⟨fault, herror⟩ := hfollows.failed hflight'
    rw [hok] at herror
    cases herror
  · intro call creation hmem
    rcases hwaiting.joined hmem with ⟨caller, hcall, rfl⟩ | ⟨outcome, hcall, hended, -⟩
    · refine .inr ⟨caller, hcall, rfl, ?_⟩
      intro outcome hended
      rw [after_concat]
      exact served_of_resume hcall hended
    · exact .inl ⟨outcome, hcall, hended⟩
  · intro call creation fault hmem hserved later hlater
    have hpast := (past_of_served hwaiting hmem hserved).moves hmoves
    have hmissed := hpast.missed later hlater
    refine ⟨hmissed, ?_⟩
    intro fault' hcall
    rcases hwaiting'.refused hcall with ⟨other, hjoined⟩ | hrefused
    · refine .inr ⟨other, ?_, hjoined, ?_⟩
      · rintro rfl
        exact hmissed hjoined
      · rcases hwaiting'.joined hjoined with ⟨caller, hcall', -⟩ | ⟨outcome, hcall', hended, -⟩
        · rw [hcall] at hcall'
          cases hcall'
        · rw [hcall] at hcall'
          cases hcall'
          exact hended
    · exact .inl hrefused

/-- Two callers wait for a creation, which fails, and the first is told. -/
def firstFails : List Act :=
  [.connect "db" (.address 0 "postgres://host/db"), .call "db", .call "db", .begin 0 (.ok ""),
    .finish 0 (.error (.custom "refused")), .resume 0]

/-- A third caller has another creation started before the second is told. -/
def thenSucceeds : List Act :=
  [.call "db", .begin 1 (.ok ""), .resume 1, .finish 1 (.ok "pool"), .resume 2, .call "db"]

theorem single_flight_of_retry :
    (∀ call, .abandon call ∉ firstFails ++ thenSucceeds) ∧
    (after firstFails).calls[0]? = some (.served (.error (.custom "refused"))) ∧
    .joined 2 0 ∉ (after (firstFails ++ thenSucceeds)).log ∧
    (after (firstFails ++ [.resume 1])).calls[1]? = some (.served (.error (.custom "refused"))) ∧
    (after (firstFails ++ thenSucceeds)).calls[2]? = some (.served (.ok "pool")) := by
  have hacts : ∀ call, .abandon call ∉ firstFails ++ thenSucceeds := by
    intro call
    simp [firstFails, thenSucceeds]
  have hserved : (after firstFails).calls[0]? = some (.served (.error (.custom "refused"))) := rfl
  have hlog : (after firstFails).log = [.registered "db" (.address 0 "postgres://host/db"), .asked 0 "db",
      .created 0 "db", .joined 0 0, .asked 1 "db", .joined 1 0] := rfl
  obtain ⟨-, -, -, hlogged, houtcome, hover⟩ := single_flight hacts
  refine ⟨hacts, hserved, ?_, ?_, rfl⟩
  · exact (hover 0 0 _ (by simp [hlog]) hserved 2 (by decide)).1
  · have hwaits : (after firstFails).calls[1]? = some (.waits ⟨"db", .address 0 "postgres://host/db", 0⟩) := rfl
    rcases houtcome 1 0 (hlogged 1 _ hwaits) with ⟨outcome, hcall, -⟩ | ⟨caller, -, -, hresume⟩
    · rw [hwaits] at hcall
      cases hcall
    · exact hresume _ rfl

end ModelStore.Pools

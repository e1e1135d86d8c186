import ModelStore.Proofs.Pool.Acts

/-!
# Callers that are called off

A creation goes on when a caller that waits for it is called off, and whoever asks next joins it. But a creation that
has given its pool is handed on by its callers: the pool is at hand from the moment that the first of them goes on. If
that caller is called off between the two, it closes the creation all the same (`retire`) and leaves nothing at hand.
The pool is *astray* then: the next caller has another one created.

The statement here is an equivalence about every run after a registration, with callers being called off at any time:
**a creation that gives a pool is the last of the registration, and everybody who asks later gets its pool, exactly if
whenever a caller misses its pool in this way, the pool is at hand again by the next call**, because another caller of
the same creation has gone on. So it costs nothing to call off callers as long as the creation is under way.

A course is *steady* as long as nobody asks for a name whose pool is astray. Then the creations of the registration
have all failed but the last, and the last is the only one that may be joined (`Steady.current`).
-/

namespace ModelStore.Pools

open Course

/-! ## Keeping a pool, missing it and having it again -/

/-- At whatever moment a creation of the name has given a pool: none is started from then on, so that the log tells of
no other and there is no other, and whoever asks from then on and gets a pool gets that one. -/
def Course.KeepsPool (course : Course) (name : String) (acts : List Act) : Prop :=
  ∀ early late : List Act, acts = early ++ late →
    let given := early.foldl act course
    let later := late.foldl act given
    ∀ id ∈ since name given.log, ∀ pool, given.pools.progress id = .ended (.ok pool) →
      since name later.log = since name given.log ∧
      (∀ other creation, later.pools.creations[other]? = some creation → creation.name = name →
        other < given.pools.creations.length) ∧
      ∀ call pool', given.calls.length ≤ call → .asked call name ∈ later.log →
        later.calls[call]? = some (.served (.ok pool')) → pool' = pool

/-- The caller waits for a creation that has given a pool. To be called off now is to miss it. -/
def Course.MayMiss (course : Course) (name : String) (call : Nat) : Prop :=
  ∃ caller pool, course.calls[call]? = some (.waits caller) ∧ caller.name = name ∧
    course.pools.progress caller.creation = .ended (.ok pool)

/-- Whenever a caller misses its pool, a pool is at hand by the next call. -/
def Course.Recovers (course : Course) (name : String) (acts : List Act) : Prop :=
  ∀ (early mid late : List Act) (call : Nat), acts = early ++ .abandon call :: (mid ++ .call name :: late) →
    (early.foldl act course).MayMiss name call →
    ((early ++ .abandon call :: mid).foldl act course).pools.ready.get? name ≠ none

/-- A creation of the name has given a pool, and still a call would have another one started. -/
structure Course.Astray (course : Course) (name : String) : Prop where
  closed : course.pools.current.get? name = none
  sought : ∃ database, course.pools.seeks? name = some database
  given : ∃ id ∈ since name course.log, ∃ pool, course.pools.progress id = .ended (.ok pool)

/-- Nobody asks for a name whose pool is astray. -/
def Course.Guided (course : Course) (name : String) (acts : List Act) : Prop :=
  ∀ early late : List Act, acts = early ++ .call name :: late → ¬ (early.foldl act course).Astray name

variable {course : Course} {name : String} {database : Database} {a : Act}

/-- **A call for a name whose pool is astray has another one created.** -/
theorem Course.Astray.since_call (h : course.Astray name) :
    since name (course.act (.call name)).log = since name course.log ++ [course.pools.creations.length] := by
  obtain ⟨sought, hseeks⟩ := h.sought
  rw [act_call_of_seeks hseeks, log_resume, since_enter, if_pos ⟨rfl, h.closed⟩]

/-- A pool that is astray is found by a call, or by a caller that goes on and leaves a pool at hand. -/
theorem Course.Astray.act (h : course.Astray name) (hname : ∀ other, a ≠ .connect name other) (hcall : a ≠ .call name) :
    (course.act a).pools.ready.get? name ≠ none ∨ (course.act a).Astray name := by
  by_cases hready : (course.act a).pools.ready.get? name = none
  case neg => exact .inl hready
  right
  rcases since_act_cases course hname with ⟨hsame, hcurrent⟩ | ⟨heq, -⟩
  case inr => exact absurd heq hcall
  refine ⟨?_, ?_, ?_⟩
  · cases hjoin : (course.act a).pools.current.get? name with
    | none => rfl
    | some id =>
      have := hcurrent hcall id hjoin
      rw [h.closed] at this
      cases this
  · obtain ⟨sought, hseeks⟩ := h.sought
    obtain ⟨hbefore, -⟩ := of_seeks hseeks
    refine ⟨sought, ?_⟩
    unfold seeks? at hseeks ⊢
    rwa [hready, (tables_act hname).1, ← hbefore]
  · obtain ⟨id, hid, pool, hended⟩ := h.given
    exact ⟨id, hsame ▸ hid, pool, (extends_act course a).ended hended⟩

/-! ## Steady courses -/

/-- The creations since the registration have all failed but the last. It may be joined until it has ended, and a pool
at hand is the one it gave. Whoever waits for a pool of the name waits for one of these creations. -/
structure Steady (name : String) (database : Database) (course : Course) : Prop where
  registered : course.pools.databases.get? name = some database
  addressed : since name course.log ≠ [] → ∀ own, database ≠ .ready own
  waits : ∀ {caller}, .waits caller ∈ course.calls → caller.name = name →
    caller.database = database ∧ caller.creation ∈ since name course.log
  current : ∀ {id}, course.pools.current.get? name = some id → (since name course.log).getLast? = some id
  settled : ∀ {id}, id ∈ since name course.log →
    course.pools.current.get? name = some id ∨ ∃ outcome, course.pools.progress id = .ended outcome
  ready : ∀ {pool}, course.pools.ready.get? name = some pool →
    course.pools.Belongs database (since name course.log) pool
  failed : (since name course.log).Pairwise fun earlier _ => course.pools.Failed earlier

/-- Of creations that have failed but the last, the one that gave a pool is the last. -/
theorem last_of_given {pools : Pools} {ids : List Nat} (hfailed : ids.Pairwise fun earlier _ => pools.Failed earlier)
    {id : Nat} (hid : id ∈ ids) {pool : Pool} (hended : pools.progress id = .ended (.ok pool)) :
    ids.getLast? = some id := by
  rcases List.eq_nil_or_concat ids with rfl | ⟨before, last, rfl⟩
  · exact absurd hid List.not_mem_nil
  rw [List.concat_eq_append] at hfailed hid ⊢
  rw [List.getLast?_concat]
  rcases List.mem_append.mp hid with hbefore | hlast
  · obtain ⟨fault, hfault⟩ := (List.pairwise_append.mp hfailed).2.2 id hbefore last List.mem_cons_self
    rw [hended] at hfault
    cases hfault
  · rw [List.mem_singleton.mp hlast]

theorem Steady.last (h : Steady name database course) {id : Nat} (hid : id ∈ since name course.log) {pool : Pool}
    (hended : course.pools.progress id = .ended (.ok pool)) : (since name course.log).getLast? = some id :=
  last_of_given h.failed hid hended

theorem Steady.belongs (h : Steady name database course) {pool : Pool} (hat : course.pools.AtHand name pool) :
    course.pools.Belongs database (since name course.log) pool :=
  hat.belongs h.registered h.ready

/-- What is registered under the name is sought unless a pool is at hand, once a creation has been started for it. -/
theorem Steady.seeks (h : Steady name database course) (hready : course.pools.ready.get? name = none)
    {id : Nat} (hid : id ∈ since name course.log) : course.pools.seeks? name = some database := by
  unfold seeks?
  rw [hready, h.registered]
  cases hdatabase : database with
  | ready own => exact absurd hdatabase (h.addressed (List.ne_nil_of_mem hid) own)
  | address object text => rfl
  | function object => rfl

/-- **What starts no creation of the name, and closes none that has not ended, keeps a course steady.** -/
theorem Steady.grow (h : Steady name database course) {pools : Pools} {calls : List Standing} {log : List Event}
    (hextends : Extends course.pools pools) (hsince : since name log = since name course.log)
    (hdatabases : pools.databases.get? name = course.pools.databases.get? name)
    (hcurrent : ∀ {id}, pools.current.get? name = some id → course.pools.current.get? name = some id)
    (hsettled : ∀ {id}, course.pools.current.get? name = some id →
      pools.current.get? name = some id ∨ ∃ outcome, pools.progress id = .ended outcome)
    (hready : ∀ {pool}, pools.ready.get? name = some pool →
      course.pools.Belongs database (since name course.log) pool)
    (hwaits : ∀ {caller}, .waits caller ∈ calls → caller.name = name →
      .waits caller ∈ course.calls ∨ caller.database = database ∧ caller.creation ∈ since name course.log) :
    Steady name database ⟨pools, calls, log⟩ := by
  refine ⟨hdatabases.trans h.registered, ?_, ?_, ?_, ?_, ?_, ?_⟩
  · exact fun hne => h.addressed (hsince ▸ hne)
  · intro caller hmem hname
    rw [hsince]
    rcases hwaits hmem hname with hold | hnew
    · exact h.waits hold hname
    · exact hnew
  · intro id hid
    rw [hsince]
    exact h.current (hcurrent hid)
  · intro id hid
    rw [hsince] at hid
    rcases h.settled hid with hjoin | ⟨outcome, hended⟩
    · exact hsettled hjoin
    · exact .inr ⟨outcome, hextends.ended hended⟩
  · intro pool hpool
    rw [hsince]
    exact (hready hpool).mono (List.Subset.refl _) hextends
  · rw [hsince]
    exact h.failed.imp hextends.failed

/-- What leaves the tables of the name alone keeps a course steady. -/
theorem Steady.aside (h : Steady name database course) {pools : Pools} {calls : List Standing} {log : List Event}
    (hextends : Extends course.pools pools) (hsince : since name log = since name course.log)
    (hdatabases : pools.databases.get? name = course.pools.databases.get? name)
    (hcurrent : pools.current.get? name = course.pools.current.get? name)
    (hready : ∀ {pool}, pools.ready.get? name = some pool → course.pools.AtHand name pool)
    (hwaits : ∀ {caller}, .waits caller ∈ calls → caller.name = name → .waits caller ∈ course.calls) :
    Steady name database ⟨pools, calls, log⟩ :=
  h.grow hextends hsince hdatabases (fun hid => hcurrent ▸ hid) (fun hid => .inl (hcurrent ▸ hid))
    (fun hpool => h.belongs (hready hpool)) fun hmem hname => .inl (hwaits hmem hname)

/-- **A caller that goes on, or is called off, keeps a course steady**: it closes a creation only if that has ended. -/
theorem Steady.leave (h : Steady name database course) {call : Nat} {caller : Caller}
    (hcall : course.calls[call]? = some (.waits caller)) {pools : Pools} {outcome : Except Fault Pool}
    (hdatabases : pools.databases = course.pools.databases) (hcreations : pools.creations = course.pools.creations)
    (hcurrent : pools.current = (course.pools.retire caller).current)
    (hready : ∀ {pool}, pools.ready.get? name = some pool → course.pools.ready.get? name = some pool ∨
      caller.name = name ∧ course.pools.progress caller.creation = .ended (.ok pool)) :
    Steady name database ⟨pools, course.calls.set call (.served outcome), course.log⟩ := by
  have hextends : Extends course.pools pools := extends_of_creations hcreations
  refine h.grow hextends rfl (by rw [hdatabases]) ?_ ?_ ?_ fun hmem _ => .inl (mem_calls_set hmem)
  · intro id hid
    rw [hcurrent] at hid
    exact current_of_retire _ _ hid
  · intro id hid
    rw [hcurrent]
    rcases current_retire_cases course.pools caller name with hsame | ⟨-, hjoin, ⟨outcome, hended⟩, -⟩
    · exact .inl (hsame.trans hid)
    · obtain rfl : caller.creation = id := Option.some.inj (hjoin.symm.trans hid)
      exact .inr ⟨outcome, hextends.ended hended⟩
  · intro pool hpool
    rcases hready hpool with hold | ⟨hname, hended⟩
    · exact h.ready hold
    · exact .inr ⟨caller.creation, (h.waits (List.mem_of_getElem? hcall) hname).2, hended⟩

theorem Steady.resume (h : Steady name database course) (call : Nat) :
    Steady name database (course.act (.resume call)) := by
  rcases act_resume_cases course call with hsame | ⟨caller, outcome, hcall, hended, hact⟩
  · rwa [hsame]
  rw [hact]
  refine h.leave hcall (databases_resume _ _) (creations_resume _ _) (current_resume _ _ hended) ?_
  intro pool hpool
  rcases of_ready_resume hpool with hold | ⟨hname, -, hgiven⟩
  · exact .inl hold
  · exact .inr ⟨hname, hgiven⟩

theorem Steady.abandon (h : Steady name database course) (call : Nat) :
    Steady name database (course.act (.abandon call)) := by
  rcases act_abandon_cases course call with hsame | ⟨caller, hcall, hact⟩
  · rwa [hsame]
  rw [hact]
  refine h.leave hcall (databases_retire _ _) (creations_retire _ _) rfl ?_
  intro pool hpool
  rw [ready_retire] at hpool
  exact .inl hpool

/-- A creation is started for the name: unless its pool is astray, all before it have failed. -/
theorem Steady.create (h : Steady name database course) (hnone : course.pools.current.get? name = none)
    {sought : Database} (hseeks : course.pools.seeks? name = some sought) (hstray : ¬ course.Astray name)
    {calls : List Standing} {log : List Event}
    (hsince : since name log = since name course.log ++ [course.pools.creations.length])
    (hwaits : ∀ {caller}, .waits caller ∈ calls → .waits caller ∈ course.calls ∨
      caller = ⟨name, sought, course.pools.creations.length⟩) :
    Steady name database ⟨course.pools.create name sought, calls, log⟩ := by
  obtain ⟨hready, hregistered⟩ := of_seeks hseeks
  obtain rfl : sought = database := Option.some.inj (hregistered.symm.trans h.registered)
  have hextends := extends_create course.pools name sought
  have hself : (course.pools.create name sought).current.get? name = some course.pools.creations.length :=
    Association.get?_set_self _ _ _
  have hfailed : ∀ id ∈ since name course.log, course.pools.Failed id := by
    intro id hid
    rcases h.settled hid with hcurrent | ⟨outcome, hended⟩
    · rw [hnone] at hcurrent
      cases hcurrent
    · cases outcome with
      | ok pool => exact absurd ⟨hnone, ⟨sought, hseeks⟩, id, hid, pool, hended⟩ hstray
      | error fault => exact ⟨fault, hended⟩
  refine ⟨hregistered, fun _ => ne_ready_of_seeks hseeks, ?_, ?_, ?_, ?_, ?_⟩
  · intro caller hmem hname
    rw [hsince]
    rcases hwaits hmem with hold | rfl
    · obtain ⟨hdatabase, hid⟩ := h.waits hold hname
      exact ⟨hdatabase, List.mem_append_left _ hid⟩
    · exact ⟨rfl, List.mem_append_right _ List.mem_cons_self⟩
  · intro id hid
    rw [hsince, List.getLast?_concat, ← hself, hid]
  · intro id hid
    rw [hsince] at hid
    rcases List.mem_append.mp hid with hold | hnew
    · obtain ⟨fault, hfault⟩ := hfailed id hold
      exact .inr ⟨_, hextends.ended hfault⟩
    · rw [List.mem_singleton.mp hnew]
      exact .inl hself
  · intro pool hpool
    have hpool : course.pools.ready.get? name = some pool := hpool
    rw [hready] at hpool
    cases hpool
  · rw [hsince]
    refine List.pairwise_append.mpr ⟨h.failed.imp hextends.failed, List.pairwise_singleton _ _, ?_⟩
    intro id hid _ _
    exact hextends.failed (hfailed id hid)

theorem Steady.enter (h : Steady name database course) {other : String} {sought : Database}
    (hseeks : course.pools.seeks? other = some sought) (hstray : other = name → ¬ course.Astray name) :
    Steady name database (course.enter other sought) := by
  have hextends := extends_move (move_enter hseeks)
  obtain ⟨hdatabases, hready⟩ := tables_join course.pools other sought
  have hsince : since name (course.enter other sought).log = _ := since_enter course other sought
  by_cases hname : other = name
  case neg =>
    rw [if_neg fun h => hname h.1] at hsince
    refine h.aside hextends hsince ?_ (current_enter_of_ne course (Ne.symm hname) sought) ?_ ?_
    · show (course.pools.join other sought).1.databases.get? name = _
      rw [hdatabases]
    · intro pool hpool
      have hpool : (course.pools.join other sought).1.ready.get? name = some pool := hpool
      exact .inl (hready ▸ hpool)
    · intro caller hmem hcaller
      rcases List.mem_append.mp hmem with hold | hnew
      · exact hold
      · have hjoined := (current_join course.pools other sought).2
        obtain rfl := Standing.waits.inj (List.mem_singleton.mp hnew)
        exact absurd (hjoined.symm.trans hcaller) hname
  subst hname
  cases hcurrent : course.pools.current.get? other with
  | none =>
    rw [if_pos ⟨rfl, hcurrent⟩] at hsince
    have henter : course.enter other sought = ⟨course.pools.create other sought,
        course.calls ++ [.waits ⟨other, sought, course.pools.creations.length⟩], (course.enter other sought).log⟩ := by
      simp only [Course.enter, join, hcurrent]
      rfl
    rw [henter]
    refine h.create hcurrent hseeks (hstray rfl) hsince ?_
    intro caller hmem
    rcases List.mem_append.mp hmem with hold | hnew
    · exact .inl hold
    · exact .inr (Standing.waits.inj (List.mem_singleton.mp hnew))
  | some id =>
    rw [if_neg fun h => by simp [hcurrent] at h] at hsince
    have hjoin : course.pools.join other sought = (course.pools, ⟨other, sought, id⟩) := by
      simp only [join, hcurrent]
    have henter : course.enter other sought =
        ⟨course.pools, course.calls ++ [.waits ⟨other, sought, id⟩], (course.enter other sought).log⟩ := by
      simp only [Course.enter, hjoin]
    rw [henter]
    refine h.grow (extends_of_creations rfl) hsince rfl (fun h' => h') (fun h' => .inl h') h.ready ?_
    intro caller hmem _
    rcases List.mem_append.mp hmem with hold | hnew
    · exact .inl hold
    · obtain rfl := Standing.waits.inj (List.mem_singleton.mp hnew)
      have hregistered := (of_seeks hseeks).2
      exact .inr ⟨Option.some.inj (hregistered.symm.trans h.registered), List.mem_of_getLast? (h.current hcurrent)⟩

/-- **An act keeps a course steady, unless it is a call for a name whose pool is astray.** -/
theorem Steady.act (h : Steady name database course) (hname : ∀ other, a ≠ .connect name other)
    (hstray : a = .call name → ¬ course.Astray name) : Steady name database (course.act a) := by
  cases a with
  | connect other registered =>
    have hne : name ≠ other := by
      rintro rfl
      exact hname registered rfl
    refine h.aside (extends_of_creations rfl) ?_ (Association.get?_set_of_ne _ _ hne)
      (Association.get?_erase_of_ne _ hne) ?_ fun hmem _ => hmem
    · simp [since_append, Event.note, Ne.symm hne]
    · intro pool hpool
      exact .inl ((Association.get?_erase_of_ne _ hne).symm.trans hpool)
  | call other =>
    cases hseeks : course.pools.seeks? other with
    | some sought =>
      rw [act_call_of_seeks hseeks]
      exact (h.enter hseeks fun heq => hstray (heq ▸ rfl)).resume _
    | none =>
      obtain ⟨ready, outcome, hcall, -, -, hat, -⟩ := call_of_not_seeks hseeks
      simp only [Course.act, hcall, hseeks]
      refine h.aside (extends_of_creations rfl) (since_quiet (by simp [Event.Quiet]) name _) rfl rfl
        (fun hpool => hat name _ hpool) ?_
      intro caller hmem _
      simpa using hmem
  | begin id given =>
    obtain ⟨hdatabases, hready, hcurrent, -⟩ := tables_begin course.pools id given
    refine h.aside (extends_act course (.begin id given)) rfl (by rw [hdatabases]) (by rw [hcurrent]) ?_
      fun hmem _ => hmem
    intro pool hpool
    rw [hready] at hpool
    exact .inl hpool
  | finish id outcome =>
    obtain ⟨hdatabases, hready, hcurrent, -⟩ := tables_finish course.pools id outcome
    refine h.aside (extends_act course (.finish id outcome)) rfl (by rw [hdatabases]) (by rw [hcurrent]) ?_
      fun hmem _ => hmem
    intro pool hpool
    rw [hready] at hpool
    exact .inl hpool
  | resume call => exact h.resume call
  | abandon call => exact h.abandon call

/-! ## How a pool goes astray -/

/-- A pool is astray only if it was, as long as the entry of the name is left alone: a creation that has not ended may
still be joined. -/
theorem Steady.astray_of_tables (h : Steady name database course) {course' : Course}
    (hextends : Extends course.pools course'.pools) (hsince : since name course'.log = since name course.log)
    (hcurrent : course'.pools.current.get? name = course.pools.current.get? name)
    (hready : course.pools.ready.get? name ≠ none → course'.pools.ready.get? name ≠ none)
    (hastray : course'.Astray name) : course.Astray name := by
  obtain ⟨hclosed, ⟨sought, hseeks⟩, id, hid, pool, hended⟩ := hastray
  rw [hcurrent] at hclosed
  rw [hsince] at hid
  have hnone : course.pools.ready.get? name = none := by
    by_contra hsome
    exact hready hsome (of_seeks hseeks).1
  refine ⟨hclosed, ⟨database, h.seeks hnone hid⟩, id, hid, pool, ?_⟩
  rcases h.settled hid with hjoin | ⟨outcome, hbefore⟩
  · rw [hclosed] at hjoin
    cases hjoin
  · -- it had ended, and outcomes stay
    rw [hbefore, ← hended, hextends.ended hbefore]

/-- A caller that goes leaves a pool astray only if it closes the creation that gave the pool. -/
theorem Steady.astray_of_leave (h : Steady name database course) {caller : Caller} {calls : List Standing}
    {pools : Pools} (hcreations : pools.creations = course.pools.creations)
    (hcurrent : pools.current = (course.pools.retire caller).current)
    (hready : course.pools.ready.get? name ≠ none → pools.ready.get? name ≠ none)
    (hastray : Course.Astray ⟨pools, calls, course.log⟩ name) :
    course.Astray name ∨ caller.name = name ∧ ∃ pool, course.pools.progress caller.creation = .ended (.ok pool) := by
  obtain ⟨hclosed, ⟨sought, hseeks⟩, id, hid, pool, hended⟩ := hastray
  have hended : course.pools.progress id = .ended (.ok pool) := (extends_of_creations hcreations.symm).ended hended
  have hnone : course.pools.ready.get? name = none := by
    by_contra hsome
    exact hready hsome (of_seeks hseeks).1
  rcases current_retire_cases course.pools caller name with hsame | ⟨hname, hjoin, -, -⟩
  · left
    have hclosed : pools.current.get? name = none := hclosed
    rw [hcurrent, hsame] at hclosed
    exact ⟨hclosed, ⟨database, h.seeks hnone hid⟩, id, hid, pool, hended⟩
  · obtain rfl : id = caller.creation := Option.some.inj ((h.last hid hended).symm.trans (h.current hjoin))
    exact .inr ⟨hname, pool, hended⟩

theorem Steady.astray_of_resume (h : Steady name database course) {call : Nat}
    (hastray : (course.act (.resume call)).Astray name) : course.Astray name := by
  rcases act_resume_cases course call with hsame | ⟨caller, outcome, hcall, hended, hact⟩
  · rwa [hsame] at hastray
  rw [hact] at hastray
  rcases h.astray_of_leave (creations_resume _ _) (current_resume _ _ hended) (ready_resume_of_ready _ _) hastray with
    hbefore | ⟨hname, pool, hgiven⟩
  · exact hbefore
  · -- a caller that goes on with a pool leaves it at hand
    subst hname
    obtain ⟨sought, hseeks⟩ := hastray.sought
    obtain ⟨hdatabase, -⟩ := h.waits (List.mem_of_getElem? hcall) rfl
    have hready := ready_resume _ _ hgiven (hdatabase ▸ h.registered)
    have hnone : (course.pools.resume caller).1.ready.get? caller.name = none := (of_seeks hseeks).1
    rw [hready] at hnone
    cases hnone

/-- A call leaves no pool of its own name astray, and touches no other. -/
theorem Steady.astray_of_call (h : Steady name database course) {other : String}
    (hstray : other = name → ¬ course.Astray name) (hastray : (course.act (.call other)).Astray name) :
    course.Astray name := by
  cases hseeks : course.pools.seeks? other with
  | none =>
    obtain ⟨ready, outcome, hcall, hready, -⟩ := call_of_not_seeks hseeks
    refine h.astray_of_tables (extends_act course _) ?_ ?_ ?_ hastray
    · simp only [Course.act, hcall, hseeks]
      exact since_quiet (by simp [Event.Quiet]) name _
    · simp only [Course.act, hcall]
    · simp only [Course.act, hcall]
      exact hready name
  | some sought =>
    rw [act_call_of_seeks hseeks] at hastray
    have hentered := (h.enter hseeks hstray).astray_of_resume hastray
    by_cases hname : other = name
    · -- the creation that the caller waits for may be joined
      subst hname
      have hjoin := (current_join course.pools other sought).1
      have hclosed : (course.pools.join other sought).1.current.get? other = none := hentered.closed
      rw [hjoin] at hclosed
      cases hclosed
    · refine h.astray_of_tables (extends_move (move_enter hseeks)) ?_ (current_enter_of_ne course (Ne.symm hname) _) ?_
        hentered
      · rw [since_enter, if_neg fun h' => hname h'.1]
      · show _ → (course.pools.join other sought).1.ready.get? name ≠ none
        rw [(tables_join course.pools other sought).2]
        exact fun hsome => hsome

/-- **A pool goes astray only by a caller's missing it.** -/
theorem Steady.astray_of_act (h : Steady name database course) (hname : ∀ other, a ≠ .connect name other)
    (hstray : a = .call name → ¬ course.Astray name) (hastray : (course.act a).Astray name) :
    course.Astray name ∨ ∃ call, a = .abandon call ∧ course.MayMiss name call := by
  cases a with
  | connect other registered =>
    have hne : name ≠ other := by
      rintro rfl
      exact hname registered rfl
    refine .inl (h.astray_of_tables (extends_act course _) ?_ ?_ (tables_act hname).2 hastray)
    · simp [Course.act, since_append, Event.note, Ne.symm hne]
    · exact Association.get?_erase_of_ne _ hne
  | call other => exact .inl (h.astray_of_call (fun heq => hstray (heq ▸ rfl)) hastray)
  | begin id given =>
    obtain ⟨-, -, hcurrent, -⟩ := tables_begin course.pools id given
    refine .inl (h.astray_of_tables (extends_act course _) rfl ?_ (tables_act hname).2 hastray)
    show (course.pools.begin id given).1.current.get? name = _
    rw [hcurrent]
  | finish id outcome =>
    obtain ⟨-, -, hcurrent, -⟩ := tables_finish course.pools id outcome
    refine .inl (h.astray_of_tables (extends_act course _) rfl ?_ (tables_act hname).2 hastray)
    show (course.pools.finish id outcome).current.get? name = _
    rw [hcurrent]
  | resume call => exact .inl (h.astray_of_resume hastray)
  | abandon call =>
    rcases act_abandon_cases course call with hsame | ⟨caller, hcall, hact⟩
    · exact .inl (hsame ▸ hastray)
    rw [hact] at hastray
    rcases h.astray_of_leave (creations_retire _ _) rfl (fun h => by rwa [ready_retire]) hastray with
      hbefore | ⟨hcaller, pool, hgiven⟩
    · exact .inl hbefore
    · exact .inr ⟨call, rfl, caller, pool, hcall, hcaller, hgiven⟩

/-- **To miss a pool that is not at hand is to lead it astray.** -/
theorem Steady.astray_of_miss (h : Steady name database course) {call : Nat} (hmiss : course.MayMiss name call) :
    (course.act (.abandon call)).pools.ready.get? name ≠ none ∨ (course.act (.abandon call)).Astray name := by
  by_cases hready : (course.act (.abandon call)).pools.ready.get? name = none
  case neg => exact .inl hready
  right
  obtain ⟨caller, pool, hcall, rfl, hended⟩ := hmiss
  have hid := (h.waits (List.mem_of_getElem? hcall) rfl).2
  have hsteady := h.abandon call
  have hact : course.act (.abandon call) =
      ⟨course.pools.retire caller, course.calls.set call (.served (.error .abandoned)), course.log⟩ := by
    simp only [Course.act, hcall, Pools.abandon]
  rw [hact] at hready hsteady ⊢
  refine ⟨?_, ⟨database, hsteady.seeks hready hid⟩, caller.creation, hid, pool, ?_⟩
  · cases hcurrent : (course.pools.retire caller).current.get? caller.name with
    | none => rfl
    | some id =>
      -- what may be joined is the last creation, which is the one that the caller has closed
      have hjoin := h.current (current_of_retire _ _ hcurrent)
      obtain rfl : caller.creation = id := Option.some.inj ((h.last hid hended).symm.trans hjoin)
      exact absurd hcurrent (current_retire_ne _ _ hended)
  · exact (extends_of_creations (creations_retire _ _)).ended hended

/-! ## The callers of a steady course -/

/-- A caller of a steady course is served what is at hand, or waits for a creation of the registration. -/
theorem Steady.standsIn (h : Steady name database course) (hstray : ¬ course.Astray name) :
    (course.act (.call name)).StandsIn database (since name (course.act (.call name)).log) course.calls.length := by
  refine standsIn_call h.belongs ?_
  intro sought hseeks
  have hwaits : .waits (course.pools.join name sought).2 ∈ (course.enter name sought).calls :=
    List.mem_append_right _ List.mem_cons_self
  exact ((h.enter hseeks fun _ => hstray).waits hwaits (current_join _ _ _).2).2

theorem Steady.answered_act {first : Nat} (h : Steady name database course)
    (hanswered : Answered name database first course) (hname : ∀ other, a ≠ .connect name other)
    (hstray : a = .call name → ¬ course.Astray name) : Answered name database first (course.act a) := by
  intro call hfirst hmem
  rcases asked_of_act hmem with hold | ⟨rfl, rfl⟩
  · exact (standsIn_act (hanswered call hfirst hold) a).mono (since_act hname)
  · exact h.standsIn (hstray rfl)

/-! ## Runs -/

section

variable {acts early late : List Act} {first : Nat}

theorem Course.Guided.take (h : course.Guided name (early ++ late)) : course.Guided name early :=
  fun before after hsplit => h before (after ++ late) (by simp [hsplit])

theorem Course.Guided.drop (h : course.Guided name (early ++ late)) :
    (early.foldl Course.act course).Guided name late := by
  intro before after hsplit
  rw [← List.foldl_append]
  exact h (early ++ before) after (by simp [hsplit])

theorem Course.Guided.last (h : course.Guided name (acts ++ [a])) :
    a = .call name → ¬ (acts.foldl Course.act course).Astray name := by
  rintro rfl
  exact h acts [] rfl

theorem Course.Guided.concat (h : course.Guided name acts)
    (hlast : a = .call name → ¬ (acts.foldl Course.act course).Astray name) : course.Guided name (acts ++ [a]) := by
  intro before after hsplit
  rcases List.eq_nil_or_concat after with rfl | ⟨after, last, rfl⟩
  · obtain ⟨rfl, heq⟩ := List.append_inj' hsplit rfl
    exact hlast (List.singleton_inj.mp heq)
  · rw [List.concat_eq_append, ← List.cons_append, ← List.append_assoc] at hsplit
    obtain ⟨rfl, -⟩ := List.append_inj' hsplit rfl
    exact h before after rfl

theorem Course.Recovers.take (h : course.Recovers name (early ++ late)) : course.Recovers name early :=
  fun before mid after call hsplit => h before mid (after ++ late) call (by simp [hsplit])

/-- **A guided run keeps a course steady.** -/
theorem Steady.run (h : Steady name database course) (hanswered : Answered name database first course)
    (hacts : ∀ other, .connect name other ∉ acts) (hguided : course.Guided name acts) :
    Steady name database (acts.foldl Course.act course) ∧
      Answered name database first (acts.foldl Course.act course) := by
  induction acts using List.reverseRecOn with
  | nil => exact ⟨h, hanswered⟩
  | append_singleton acts a ih =>
    obtain ⟨hsteady, hanswered'⟩ := ih (fun other hmem => hacts other (List.mem_append_left _ hmem)) hguided.take
    have hname := not_connect_of_split hacts rfl
    rw [List.foldl_append]
    exact ⟨hsteady.act hname hguided.last, hsteady.answered_act hanswered' hname hguided.last⟩

/-- In a guided run nothing is started after a creation that gave a pool. -/
theorem since_of_guided (hacts : ∀ other, .connect name other ∉ acts) (hguided : course.Guided name acts) {id : Nat}
    (hid : id ∈ since name course.log) {pool : Pool} (hended : course.pools.progress id = .ended (.ok pool)) :
    since name (acts.foldl Course.act course).log = since name course.log := by
  induction acts using List.reverseRecOn with
  | nil => rfl
  | append_singleton acts a ih =>
    have hsame := ih (fun other hmem => hacts other (List.mem_append_left _ hmem)) hguided.take
    rw [List.foldl_append, List.foldl_cons, List.foldl_nil, ← hsame]
    rcases since_act_cases (acts.foldl Course.act course) (not_connect_of_split hacts rfl) with
      ⟨hkept, -⟩ | ⟨hcall, hclosed, hsought, -⟩
    · exact hkept
    · have hastray : (acts.foldl Course.act course).Astray name :=
        ⟨hclosed, hsought, id, hsame ▸ hid, pool, (extends_acts course acts).ended hended⟩
      exact absurd hastray (hguided.last hcall)

/-- **The pool is kept exactly if nobody asks while it is astray.** -/
theorem Steady.keepsPool_iff_guided (h : Steady name database course) (hrecorded : Recorded course)
    (hanswered : Answered name database course.calls.length course) (hacts : ∀ other, .connect name other ∉ acts) :
    course.KeepsPool name acts ↔ course.Guided name acts := by
  constructor
  · intro hkeeps early late hsplit hastray
    obtain ⟨id, hid, pool, hended⟩ := hastray.given
    obtain ⟨hsame, -⟩ := hkeeps early (.call name :: late) hsplit id hid pool hended
    have hlate : ∀ other, .connect name other ∉ late := fun other hmem => hacts other (by simp [hsplit, hmem])
    have hlonger := (since_prefix_acts hlate ((early.foldl Course.act course).act (.call name))).length_le
    rw [hastray.since_call] at hlonger
    rw [List.foldl_cons] at hsame
    rw [hsame, List.length_append, List.length_singleton] at hlonger
    omega
  · rintro hguided early late rfl given later id hid pool hended
    have hlate : ∀ other, .connect name other ∉ late := fun other hmem => hacts other (List.mem_append_right _ hmem)
    have hsince : since name later.log = since name given.log := since_of_guided hlate hguided.drop hid hended
    refine ⟨hsince, fun _ _ => lt_length_of_since (hrecorded.acts early) hlate hsince, ?_⟩
    intro call pool' hcall hasked hserved
    obtain ⟨hsteady, hanswered'⟩ := h.run hanswered hacts hguided
    rw [List.foldl_append] at hsteady hanswered'
    have hfirst : course.calls.length ≤ call := Nat.le_trans (length_calls_acts early course) hcall
    obtain ⟨standing, hstanding, hsound⟩ := hanswered' call hfirst hasked
    obtain rfl : standing = .served (.ok pool') := Option.some.inj (hstanding.symm.trans hserved)
    have hgiven : later.pools.Belongs database (since name later.log) pool :=
      .inr ⟨id, hsince ▸ hid, (extends_acts given late).ended hended⟩
    exact Belongs.unique hsound hgiven hsteady.addressed hsteady.failed

/-- If callers that miss a pool always recover it, nobody asks while it is astray, and if it is astray at the end, then
because a caller has missed it. -/
theorem Steady.guided_of_recovers (h : Steady name database course)
    (hanswered : Answered name database course.calls.length course) (hnone : ¬ course.Astray name)
    (hacts : ∀ other, .connect name other ∉ acts) (hrecovers : course.Recovers name acts) :
    course.Guided name acts ∧ ((acts.foldl Course.act course).Astray name →
      ∃ before call mid, acts = before ++ .abandon call :: mid ∧
        (before.foldl Course.act course).MayMiss name call) := by
  induction acts using List.reverseRecOn with
  | nil => exact ⟨fun early late hsplit => by simp at hsplit, fun hastray => absurd hastray hnone⟩
  | append_singleton acts a ih =>
    have hbefore : ∀ other, .connect name other ∉ acts := fun other hmem => hacts other (List.mem_append_left _ hmem)
    obtain ⟨hguided, hmissed⟩ := ih hbefore hrecovers.take
    have hstray : a = .call name → ¬ (acts.foldl Course.act course).Astray name := by
      rintro rfl hastray
      obtain ⟨before, call, mid, rfl, hmiss⟩ := hmissed hastray
      obtain ⟨sought, hseeks⟩ := hastray.sought
      exact hrecovers before mid [] call (by simp) hmiss (of_seeks hseeks).1
    obtain ⟨hsteady, -⟩ := h.run hanswered hbefore hguided
    refine ⟨hguided.concat hstray, fun hastray => ?_⟩
    rw [List.foldl_append] at hastray
    rcases hsteady.astray_of_act (not_connect_of_split hacts rfl) hstray hastray with hold | ⟨call, rfl, hmiss⟩
    · obtain ⟨before, call, mid, rfl, hmiss⟩ := hmissed hold
      exact ⟨before, call, mid ++ [a], by simp, hmiss⟩
    · exact ⟨acts, call, [], rfl, hmiss⟩

/-- What is at hand stays there, and what is astray stays so until it is at hand, if nobody asks for it. -/
theorem astray_acts (h : course.pools.ready.get? name ≠ none ∨ course.Astray name)
    (hacts : ∀ other, .connect name other ∉ acts) (hguided : course.Guided name acts) :
    (acts.foldl Course.act course).pools.ready.get? name ≠ none ∨ (acts.foldl Course.act course).Astray name := by
  induction acts using List.reverseRecOn with
  | nil => exact h
  | append_singleton acts a ih =>
    have hname : ∀ other, a ≠ .connect name other := not_connect_of_split hacts rfl
    rw [List.foldl_append, List.foldl_cons, List.foldl_nil]
    rcases ih (fun other hmem => hacts other (List.mem_append_left _ hmem)) hguided.take with hready | hastray
    · exact .inl ((tables_act hname).2 hready)
    · exact hastray.act hname fun hcall => hguided.last hcall hastray

/-- **Nobody asks while the pool is astray exactly if whenever a caller misses it, it is at hand by the next call.** -/
theorem Steady.guided_iff_recovers (h : Steady name database course)
    (hanswered : Answered name database course.calls.length course) (hnone : ¬ course.Astray name)
    (hacts : ∀ other, .connect name other ∉ acts) : course.Guided name acts ↔ course.Recovers name acts := by
  refine ⟨?_, fun hrecovers => (h.guided_of_recovers hanswered hnone hacts hrecovers).1⟩
  rintro hguided early mid late call rfl hmiss
  have hearly : ∀ other, .connect name other ∉ early := fun other hmem => hacts other (List.mem_append_left _ hmem)
  have hmid : ∀ other, .connect name other ∉ mid := fun other hmem => hacts other (by simp [hmem])
  obtain ⟨hsteady, -⟩ := h.run hanswered hearly hguided.take
  -- between the caller's end and the next call nobody asks for the name while it is astray, nor by that call
  have hafter : (early.foldl Course.act course).Guided name ([.abandon call] ++ (mid ++ .call name :: late)) :=
    hguided.drop
  have hbetween : ((early.foldl Course.act course).act (.abandon call)).Guided name (mid ++ .call name :: late) :=
    hafter.drop
  rw [List.foldl_append, List.foldl_cons]
  refine (astray_acts (hsteady.astray_of_miss hmiss) hmid hbetween.take).resolve_right ?_
  exact hbetween.drop [] late rfl

end

/-! ## The theorem -/

/-- A name has just been registered, and nobody waits for it. -/
theorem steady_connect (hwaits : ∀ caller, .waits caller ∈ course.calls → caller.name ≠ name) (database : Database) :
    Steady name database (course.act (.connect name database)) ∧
      ¬ (course.act (.connect name database)).Astray name := by
  have hsince : since name (course.act (.connect name database)).log = [] := by
    show since name (course.log ++ [.registered name database]) = []
    simp [since_append, Event.note]
  refine ⟨⟨databases_connect _ _ _, ?_, ?_, ?_, ?_, ?_, ?_⟩, ?_⟩
  · exact fun hne => absurd hsince hne
  · exact fun hmem hname => absurd hname (hwaits _ hmem)
  · intro id hcurrent
    exact absurd (hcurrent.symm.trans (current_connect course.pools name database)) (by simp)
  · intro id hid
    rw [hsince] at hid
    exact absurd hid List.not_mem_nil
  · intro pool hready
    exact absurd (hready.symm.trans (ready_connect course.pools name database)) (by simp)
  · rw [hsince]
    exact List.Pairwise.nil
  · intro hastray
    obtain ⟨id, hid, -⟩ := hastray.given
    rw [hsince] at hid
    exact absurd hid List.not_mem_nil

/-- **A registration keeps the pool that a creation of it gives, exactly if whenever a caller misses it, a pool is at
hand by the next call.** A name is registered once, and callers ask for it, wait, go on and are called off in whatever
order. -/
theorem keepsPool_iff {acts more : List Act} (name : String) (database : Database)
    (hacts : ∀ other, .connect name other ∉ acts ++ more) :
    (after (acts ++ [.connect name database])).KeepsPool name more ↔
      (after (acts ++ [.connect name database])).Recovers name more := by
  have hbefore : ∀ other, .connect name other ∉ acts := fun other h => hacts other (List.mem_append_left _ h)
  have hmore : ∀ other, .connect name other ∉ more := fun other h => hacts other (List.mem_append_right _ h)
  obtain ⟨-, hwaits⟩ := unsought_after hbefore
  obtain ⟨hsteady, hnone⟩ := steady_connect hwaits database
  have hanswered : Answered name database _ _ := answered_connect (recorded_after acts)
  have hrecorded := recorded_after (acts ++ [.connect name database])
  rw [after_concat] at hrecorded ⊢
  exact (hsteady.keepsPool_iff_guided hrecorded hanswered hmore).trans
    (hsteady.guided_iff_recovers hanswered hnone hmore)

/-- Two callers wait for a creation, which gives its pool; the first is called off, the second goes on, and then a third
asks. -/
def secondGoesOn : List Act :=
  [.call "db", .call "db", .begin 0 (.ok ""), .finish 0 (.ok "pool"), .abandon 0, .resume 1, .call "db"]

theorem keepsPool_of_second_caller :
    (∀ other, .connect "db" other ∉ [] ++ secondGoesOn) ∧
      (after [.connect "db" (.address 0 "postgres://host/db")]).KeepsPool "db" secondGoesOn := by
  have hacts : ∀ other, .connect "db" other ∉ [] ++ secondGoesOn := by simp [secondGoesOn]
  refine ⟨hacts, (keepsPool_iff "db" (.address 0 "postgres://host/db") hacts).mpr ?_⟩
  intro early mid late call hsplit _
  -- only one caller is called off, and only one act stands between that and the next call
  obtain ⟨rfl, rfl, rfl, -⟩ : early = [.call "db", .call "db", .begin 0 (.ok ""), .finish 0 (.ok "pool")] ∧ call = 0 ∧
      mid = [.resume 1] ∧ late = [] := by
    simpa [secondGoesOn, List.cons_eq_append_iff, List.append_eq_cons_iff] using hsplit
  decide

/-- The only caller is called off when the creation has given its pool, and then another asks. -/
def noneGoesOn : List Act :=
  [.call "db", .begin 0 (.ok ""), .finish 0 (.ok "pool"), .abandon 0, .call "db", .begin 1 (.ok ""),
    .finish 1 (.ok "another"), .resume 1]

/-- **The pool is lost, and another one is created.** -/
theorem called_off_costs_pool :
    ¬ (after [.connect "db" (.address 0 "postgres://host/db")]).KeepsPool "db" noneGoesOn ∧
      (after (.connect "db" (.address 0 "postgres://host/db") :: noneGoesOn)).calls =
        [.served (.error .abandoned), .served (.ok "another")] ∧
      (after (.connect "db" (.address 0 "postgres://host/db") :: noneGoesOn)).pools.creations.map Creation.progress =
        [.ended (.ok "pool"), .ended (.ok "another")] := by
  refine ⟨?_, rfl, rfl⟩
  intro hkeeps
  obtain ⟨hsame, -⟩ := hkeeps (noneGoesOn.take 3) (noneGoesOn.drop 3) rfl 0 (by decide) "pool" rfl
  exact absurd hsame (by decide)

end ModelStore.Pools

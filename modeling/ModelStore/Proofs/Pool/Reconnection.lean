import Mathlib.Data.List.Pairwise
import ModelStore.Proofs.Pool.Prospect
import ModelStore.Proofs.Pool.SingleFlight

/-!
# Registering a name again

Registering forgets what was created for a name, but not who still waits for it. A caller who asked before goes
on after, with the pool it waited for, and leaves that pool at hand if what is registered is what it asked with
(`keep`). To see that nothing has been registered meanwhile it compares *objects*; so if the very same object was
registered once more, it takes the new registration for its own, and everybody who comes later is served a pool of
the old one. A function that was registered once more so that it would be called once more is then not called.

The statement here is an equivalence: **registering takes effect exactly if nobody who asked before, with the same
object under the same name, waits for a creation that may still give a pool**. In particular it takes effect
whenever the object is a new one.

Two invariants carry it from the registration on. `Renewed` is about the tables: a pool at hand is one of the new
registration. `Answered` is about the callers: a new caller waits for a new creation or has been served such a pool.
The second needs the first when a call is made, and from then on only that nothing is undone, so it survives also
the registrations that follow.
-/

namespace ModelStore.Pools

open Course

/-! ## What taking effect is -/

/-- The pool that was registered, or the pool of a creation that was started since there were so many. -/
def StemsFrom (pools : Pools) (name : String) (database : Database) (created : Nat) (pool : Pool) : Prop :=
  match database with
  | .ready own => pool = own
  | _ => ∃ id, created ≤ id ∧ pools.creations[id]? = some ⟨name, database, .ended (.ok pool)⟩

/-- Suppose the database is registered now. A caller who asks for the name *meanwhile*, that is before the name is
registered again, may be served at any time *later*. If it gets a pool, it is one of this registration, and all
such callers get the same. -/
def Course.TakesEffect (course : Course) (name : String) (database : Database) : Prop :=
  ∀ mid rest : List Act, (∀ other, .connect name other ∉ mid) → (∀ call, .abandon call ∉ mid ++ rest) →
    let meanwhile := mid.foldl act (course.act (.connect name database))
    let later := rest.foldl act meanwhile
    let Served (call : Nat) (pool : Pool) := course.calls.length ≤ call ∧ .asked call name ∈ meanwhile.log ∧
      later.calls[call]? = some (.served (.ok pool))
    (∀ call pool, Served call pool → later.pools.StemsFrom name database course.pools.creations.length pool) ∧
    ∀ call call' pool pool', Served call pool → Served call' pool' → pool = pool'

variable {course course' : Course} {name : String} {database : Database} {ids : List Nat}

/-! ## Small facts about every course -/

/-- A ready pool is not created. -/
def Addressed (pools : Pools) : Prop :=
  ∀ (id : Nat) (creation : Creation), pools.creations[id]? = some creation → ∀ own, creation.database ≠ .ready own

theorem Addressed.move (h : Addressed course.pools) (hmove : Move course course') : Addressed course'.pools := by
  cases hmove with
  | registers other database => exact h
  | answers other ready outcome hready hfault => exact h
  | joins other database creation hseeks hcurrent => exact h
  | creates other database hseeks hnone =>
    intro id creation hc
    rcases List.mem_append.mp (List.mem_of_getElem? hc) with hold | hnew
    · obtain ⟨id', hid'⟩ := List.mem_iff_getElem?.mp hold
      exact h id' creation hid'
    · obtain rfl := List.mem_singleton.mp hnew
      exact ne_ready_of_seeks hseeks
  | advances id progress hnot =>
    intro other creation hc
    by_cases hid : id = other
    · subst hid
      obtain ⟨before, hbefore, rfl⟩ : ∃ before, course.pools.creations[id]? = some before ∧
          { before with progress := progress } = creation := by simpa [advance] using hc
      exact h id before hbefore
    · exact h other creation (creations_advance_of_ne hid progress ▸ hc)
  | serves call caller outcome hcall hended =>
    intro id creation hc
    rw [creations_resume] at hc
    exact h id creation hc

theorem addressed_after {acts : List Act} (hacts : ∀ call, .abandon call ∉ acts) : Addressed (after acts).pools := by
  have hmoves := moves_acts hacts ⟨.empty, [], []⟩
  generalize hcourse : acts.foldl act ⟨.empty, [], []⟩ = course at hmoves
  have hafter : after acts = course := hcourse
  rw [hafter]
  clear hcourse hafter
  induction hmoves with
  | refl =>
    intro id creation hc
    simp [empty] at hc
  | tail _ hmove ih => exact ih.move hmove

/-- **Of the creations of one registration at most one can have given a pool**: all before the last have failed. -/
theorem failed_pairwise {pools : Pools} {log : List Event}
    (h : ∀ before later, before ++ [.created later name] <+: log → ∀ id ∈ since name before, pools.Failed id) :
    (since name log).Pairwise fun earlier _ => pools.Failed earlier := by
  induction log using List.reverseRecOn with
  | nil => exact List.Pairwise.nil
  | append_singleton log event ih =>
    have ih := ih fun before later hp => h before later (hp.trans (List.prefix_append _ _))
    rw [since_append, List.foldl_cons, List.foldl_nil]
    cases event with
    | asked call other => exact ih
    | joined call creation => exact ih
    | registered other database =>
      simp only [Event.note]
      split
      · exact List.Pairwise.nil
      · exact ih
    | created creation other =>
      simp only [Event.note]
      split
      case isTrue heq =>
        subst heq
        refine List.pairwise_append.mpr ⟨ih, List.pairwise_singleton _ _, ?_⟩
        intro id hid _ _
        exact h log creation (List.prefix_refl _) id hid
      case isFalse => exact ih

/-! ## Pools of a registration -/

/-- The pool that was registered, or the pool of one of the registration's creations. -/
def Belongs (pools : Pools) (database : Database) (ids : List Nat) (pool : Pool) : Prop :=
  database = .ready pool ∨ ∃ id ∈ ids, pools.progress id = .ended (.ok pool)

theorem Belongs.mono {pools pools' : Pools} {ids' : List Nat} {pool : Pool} (h : pools.Belongs database ids pool)
    (hids : ids ⊆ ids') (hextends : Extends pools pools') : pools'.Belongs database ids' pool := by
  rcases h with hready | ⟨id, hid, hended⟩
  · exact .inl hready
  · exact .inr ⟨id, hids hid, hextends.ended hended⟩

theorem AtHand.belongs {pools : Pools} {pool : Pool} (h : pools.AtHand name pool)
    (hregistered : pools.databases.get? name = some database)
    (hready : pools.ready.get? name = some pool → pools.Belongs database ids pool) :
    pools.Belongs database ids pool := by
  rcases h with hat | hown
  · exact hready hat
  · rw [hregistered] at hown
    exact .inl (Option.some.inj hown)

/-- A caller has what a registration gives, or waits for it. -/
def Sound (pools : Pools) (database : Database) (ids : List Nat) : Standing → Prop
  | .waits caller => caller.creation ∈ ids
  | .served (.ok pool) => pools.Belongs database ids pool
  | .served (.error _) => True

theorem Sound.mono {pools pools' : Pools} {ids' : List Nat} {standing : Standing}
    (h : pools.Sound database ids standing) (hids : ids ⊆ ids') (hextends : Extends pools pools') :
    pools'.Sound database ids' standing := by
  cases standing with
  | waits caller => exact hids h
  | served outcome =>
    cases outcome with
    | ok pool => exact Belongs.mono h hids hextends
    | error fault => trivial

theorem sound_served {pools : Pools} {caller : Caller} {outcome : Except Fault Pool}
    (h : pools.Sound database ids (.waits caller)) (hended : pools.progress caller.creation = .ended outcome) :
    pools.Sound database ids (.served outcome) := by
  cases outcome with
  | ok pool => exact .inr ⟨caller.creation, h, hended⟩
  | error fault => trivial

/-- A caller stands soundly. -/
def Course.StandsIn (course : Course) (database : Database) (ids : List Nat) (call : Nat) : Prop :=
  ∃ standing, course.calls[call]? = some standing ∧ course.pools.Sound database ids standing

/-- **Who once stands soundly always does.** -/
theorem Course.StandsIn.move {call : Nat} (h : course.StandsIn database ids call) (hmove : Move course course') :
    course'.StandsIn database ids call := by
  obtain ⟨standing, hcall, hsound⟩ := h
  have hmono := hsound.mono (List.Subset.refl ids) (extends_move hmove)
  cases hmove with
  | registers other database => exact ⟨standing, hcall, hmono⟩
  | answers other ready outcome hready hfault => exact ⟨standing, standing_concat hcall _, hmono⟩
  | joins other database creation hseeks hcurrent => exact ⟨standing, standing_concat hcall _, hmono⟩
  | creates other database hseeks hnone => exact ⟨standing, standing_concat hcall _, hmono⟩
  | advances id progress hnot => exact ⟨standing, hcall, hmono⟩
  | serves served caller outcome hserved hended =>
    by_cases heq : served = call
    · subst heq
      obtain rfl : standing = .waits caller := by simpa [hcall] using hserved
      refine ⟨.served outcome, by simp [(List.getElem?_eq_some_iff.mp hcall).1], ?_⟩
      exact (sound_served hsound hended).mono (List.Subset.refl ids) (extends_of_creations (creations_resume _ _))
    · exact ⟨standing, by rw [List.getElem?_set_ne heq, hcall], hmono⟩

theorem Course.StandsIn.moves {call : Nat} (h : course.StandsIn database ids call) (hmoves : Moves course course') :
    course'.StandsIn database ids call := by
  induction hmoves with
  | refl => exact h
  | tail _ hmove ih => exact ih.move hmove

/-! ## What an act does to the log -/

theorem of_mem_joinEvents {pools : Pools} {call : Nat} {event : Event} (h : event ∈ pools.joinEvents call name) :
    (∃ id, event = .created id name) ∨ ∃ id, event = .joined call id := by
  unfold joinEvents at h
  split at h
  · exact .inr ⟨_, List.mem_singleton.mp h⟩
  · simp only [List.mem_cons, List.not_mem_nil, or_false] at h
    rcases h with rfl | rfl
    · exact .inl ⟨_, rfl⟩
    · exact .inr ⟨_, rfl⟩

theorem log_call (course : Course) (name : String) :
    ∃ joining, (course.act (.call name)).log = course.log ++ .asked course.calls.length name :: joining ∧
      ∀ event ∈ joining, (∃ id, event = .created id name) ∨ ∃ id, event = .joined course.calls.length id := by
  refine ⟨_, rfl, ?_⟩
  intro event hmem
  split at hmem
  · exact of_mem_joinEvents hmem
  · exact absurd hmem List.not_mem_nil

theorem log_act (course : Course) (a : Act) :
    ∃ events, (course.act a).log = course.log ++ events ∧
      (∀ name database, .registered name database ∈ events → a = .connect name database) ∧
      ∀ call name, .asked call name ∈ events → call = course.calls.length ∧ a = .call name := by
  have hnothing : ∀ {log : List Event}, log = course.log → ∃ events, log = course.log ++ events ∧
      (∀ name database, .registered name database ∈ events → a = .connect name database) ∧
      ∀ call name, .asked call name ∈ events → call = course.calls.length ∧ a = .call name := by
    rintro log rfl
    exact ⟨[], by simp, by simp, by simp⟩
  cases a with
  | connect name database => exact ⟨[.registered name database], rfl, by simp, by simp⟩
  | call name =>
    obtain ⟨joining, hlog, hjoining⟩ := log_call course name
    refine ⟨_, hlog, ?_, ?_⟩
    · intro other database hmem
      rcases List.mem_cons.mp hmem with heq | hmem
      · cases heq
      · rcases hjoining _ hmem with ⟨id, heq⟩ | ⟨id, heq⟩
        · cases heq
        · cases heq
    · intro call other hmem
      rcases List.mem_cons.mp hmem with heq | hmem
      · cases heq
        exact ⟨rfl, rfl⟩
      · rcases hjoining _ hmem with ⟨id, heq⟩ | ⟨id, heq⟩
        · cases heq
        · cases heq
  | begin id given => exact hnothing rfl
  | finish id outcome => exact hnothing rfl
  | resume call =>
    apply hnothing
    simp only [act]
    split
    · rfl
    · rfl
  | abandon call =>
    apply hnothing
    simp only [act]
    split
    · rfl
    · rfl

/-- What was started since a name was registered stays so, until it is registered again. -/
theorem since_act {a : Act} (hname : ∀ other, a ≠ .connect name other) :
    since name course.log ⊆ since name (course.act a).log := by
  obtain ⟨events, hlog, hregistered, -⟩ := log_act course a
  intro id hid
  rw [hlog, since_append]
  apply mem_foldl_note _ hid
  intro database hmem
  exact hname database (hregistered name database hmem)

theorem asked_of_act {a : Act} {call : Nat} (h : .asked call name ∈ (course.act a).log) :
    .asked call name ∈ course.log ∨ call = course.calls.length ∧ a = .call name := by
  obtain ⟨events, hlog, -, hasked⟩ := log_act course a
  rw [hlog] at h
  rcases List.mem_append.mp h with hold | hnew
  · exact .inl hold
  · exact .inr (hasked call name hnew)

theorem log_resume (course : Course) (call : Nat) : (course.act (.resume call)).log = course.log := by
  simp only [act]
  split
  · rfl
  · rfl

/-- A pool comes to be at hand when a caller goes on with it whose object is still registered. -/
theorem of_ready_resume {pools : Pools} {caller : Caller} {pool : Pool}
    (h : (pools.resume caller).1.ready.get? name = some pool) :
    pools.ready.get? name = some pool ∨ caller.name = name ∧
      pools.databases.get? name = some caller.database ∧ pools.progress caller.creation = .ended (.ok pool) := by
  unfold resume at h
  split at h
  case h_1 given hended =>
    unfold keep at h
    rw [databases_retire] at h
    split at h
    case isTrue hregistered =>
      by_cases hname : name = caller.name
      · subst hname
        obtain rfl : given = pool := by simpa [Association.get?_set_self] using h
        exact .inr ⟨rfl, hregistered, hended⟩
      · rw [Association.get?_set_of_ne _ _ hname, ready_retire] at h
        exact .inl h
    case isFalse =>
      rw [ready_retire] at h
      exact .inl h
  case h_2 =>
    rw [ready_retire] at h
    exact .inl h
  case h_3 => exact .inl h

/-! ## The tables after a registration -/

/-- The name is registered as it was. The pool at hand for it is one of the registration, and so is every pool that
a caller could still leave at hand. -/
structure Renewed (name : String) (database : Database) (created : Nat) (course : Course) : Prop where
  registered : course.pools.databases.get? name = some database
  known : created ≤ course.pools.creations.length
  recent : ∀ id ∈ since name course.log, created ≤ id
  ready : ∀ pool, course.pools.ready.get? name = some pool →
    course.pools.Belongs database (since name course.log) pool
  stale : ∀ (call : Nat) (caller : Caller), course.calls[call]? = some (.waits caller) → caller.name = name →
    caller.database = database →
    caller.creation ∈ since name course.log ∨ ∀ pool, ¬ course.pools.MayGive caller.creation pool

section

variable {created first : Nat}

theorem Extends.length_le {pools pools' : Pools} (h : Extends pools pools') :
    pools.creations.length ≤ pools'.creations.length := by
  by_contra hlt
  have hlt : pools'.creations.length < pools.creations.length := by omega
  obtain ⟨creation', hc', -⟩ := h _ _ (List.getElem?_eq_getElem hlt)
  exact absurd (List.getElem?_eq_some_iff.mp hc').1 (Nat.lt_irrefl _)

theorem Renewed.belongs (h : Renewed name database created course) {pool : Pool}
    (hat : course.pools.AtHand name pool) : course.pools.Belongs database (since name course.log) pool :=
  hat.belongs h.registered (h.ready pool)

/-- **What brings no foreign pool to hand and gives no old creation a prospect keeps the tables renewed.** -/
theorem Renewed.grow (h : Renewed name database created course) (hwaiting : Waiting course) {pools : Pools}
    {calls : List Standing} {log : List Event} (hextends : Extends course.pools pools)
    (hdatabases : pools.databases.get? name = course.pools.databases.get? name)
    (hmay : ∀ id pool, id < course.pools.creations.length → pools.MayGive id pool → course.pools.MayGive id pool)
    (hsince : since name course.log ⊆ since name log)
    (hrecent : ∀ id ∈ since name log, id ∈ since name course.log ∨ created ≤ id)
    (hready : ∀ pool, pools.ready.get? name = some pool →
      course.pools.AtHand name pool ∨ pools.Belongs database (since name log) pool)
    (hwaits : ∀ (call : Nat) (caller : Caller), calls[call]? = some (.waits caller) →
      course.calls[call]? = some (.waits caller) ∨ (caller.name = name → caller.creation ∈ since name log)) :
    Renewed name database created ⟨pools, calls, log⟩ := by
  refine ⟨hdatabases.trans h.registered, Nat.le_trans h.known hextends.length_le, ?_, ?_, ?_⟩
  · intro id hid
    rcases hrecent id hid with hold | hnew
    · exact h.recent id hold
    · exact hnew
  · intro pool hpool
    rcases hready pool hpool with hat | hbelongs
    · exact (h.belongs hat).mono hsince hextends
    · exact hbelongs
  · intro call caller hcall hname hdatabase
    rcases hwaits call caller hcall with hold | hnew
    · rcases h.stale call caller hold hname hdatabase with hid | hnever
      · exact .inl (hsince hid)
      · right
        intro pool hmay'
        obtain ⟨-, creation, hc, -⟩ := hwaiting.waits hold
        exact hnever pool (hmay _ pool (List.getElem?_eq_some_iff.mp hc).1 hmay')
    · exact .inl (hnew hname)

/-- What was started since the registration is for what was registered. -/
theorem Renewed.owned (h : Renewed name database created course) (hflight : Flight course)
    (haddressed : Addressed course.pools) {pools : Pools} (hextends : Extends course.pools pools) :
    ∀ id ∈ since name course.log, created ≤ id ∧ (∀ own, database ≠ .ready own) ∧ ∃ creation : Creation,
      pools.creations[id]? = some creation ∧ creation.name = name ∧ creation.database = database := by
  intro id hid
  obtain ⟨creation, hc, hname, hregistered⟩ := hflight.owned hid
  rw [h.registered] at hregistered
  obtain rfl := Option.some.inj hregistered
  obtain ⟨creation', hc', hname', hdatabase', -⟩ := hextends id creation hc
  exact ⟨h.recent id hid, haddressed id creation hc, creation', hc', hname'.trans hname, hdatabase'⟩

theorem Renewed.enter (h : Renewed name database created course) (hflight : Flight course) (hwaiting : Waiting course)
    {other : String} {sought : Database} (hseeks : course.pools.seeks? other = some sought) :
    Renewed name database created (course.enter other sought) := by
  have hmove := move_enter hseeks
  obtain ⟨hdatabases, hready⟩ := tables_join course.pools other sought
  obtain ⟨hcurrent, hcaller⟩ := current_join course.pools other sought
  refine h.grow hwaiting (extends_move hmove) ?_ ?_ ?_ ?_ ?_ ?_
  · show (course.pools.join other sought).1.databases.get? name = _
    rw [hdatabases]
  · intro id pool hlt hmay
    exact (mayGive_congr (creations_join course.pools other sought hlt)).mp hmay
  · intro id hid
    rw [since_append]
    apply mem_foldl_note _ hid
    intro database hmem
    rcases List.mem_cons.mp hmem with heq | hmem
    · cases heq
    · rcases of_mem_joinEvents hmem with ⟨id, heq⟩ | ⟨id, heq⟩
      · cases heq
      · cases heq
  · intro id hid
    unfold joinEvents at hid
    split at hid
    · rw [since_quiet (by simp [Event.Quiet])] at hid
      exact .inl hid
    · rcases mem_since_created.mp hid with hold | ⟨-, rfl⟩
      · exact .inl hold
      · exact .inr h.known
  · intro pool hpool
    have hpool : (course.pools.join other sought).1.ready.get? name = some pool := hpool
    rw [hready] at hpool
    exact .inl (.inl hpool)
  · intro call caller hcall
    rcases standing_of_concat hcall with hold | ⟨-, hlast⟩
    · exact .inl hold
    · cases hlast
      right
      intro hname
      -- the creation that a caller joins is one since the registration
      obtain rfl : other = name := hcaller.symm.trans hname
      exact (hflight.move hwaiting hmove).current hcurrent

theorem Renewed.resume (h : Renewed name database created course) (hwaiting : Waiting course) (call : Nat) :
    Renewed name database created (course.act (.resume call)) := by
  rcases act_resume_cases course call with hsame | ⟨caller, outcome, hcall, -, hact⟩
  · rwa [hsame]
  rw [hact]
  refine h.grow hwaiting (extends_of_creations (creations_resume _ _)) ?_ ?_ (List.Subset.refl _)
    (fun id hid => .inl hid) ?_ ?_
  · rw [databases_resume]
  · intro id pool _ hmay
    exact (mayGive_congr (by rw [creations_resume])).mp hmay
  · intro pool hpool
    rcases of_ready_resume hpool with hready | ⟨hname, hregistered, hended⟩
    · exact .inl (.inl hready)
    · -- the caller takes the registration for its own, so it had better be
      rw [h.registered] at hregistered
      rcases h.stale call caller hcall hname (Option.some.inj hregistered).symm with hid | hnever
      · exact .inr (.inr ⟨caller.creation, hid,
          (extends_of_creations (creations_resume _ _)).ended hended⟩)
      · exact absurd (mayGive_of_ended hended) (hnever pool)
  · intro other caller' hother
    by_cases heq : call = other
    · subst heq
      simp [(List.getElem?_eq_some_iff.mp hcall).1] at hother
    · rw [List.getElem?_set_ne heq] at hother
      exact .inl hother

theorem Renewed.act (h : Renewed name database created course) (hflight : Flight course) (hwaiting : Waiting course)
    {a : Act} (ha : ∀ call, a ≠ .abandon call) (hname : ∀ other, a ≠ .connect name other) :
    Renewed name database created (course.act a) := by
  have hextends := extends_moves (moves_act course ha)
  cases a with
  | connect other registered =>
    have hne : name ≠ other := by
      rintro rfl
      exact hname registered rfl
    have hsince : since name (course.log ++ [.registered other registered]) = since name course.log := by
      rw [since_append, List.foldl_cons, List.foldl_nil, Event.note, if_neg (Ne.symm hne)]
    refine h.grow hwaiting hextends ?_ (fun _ _ _ hmay => hmay) (by rw [hsince]; exact List.Subset.refl _)
      (by rw [hsince]; exact fun _ hid => .inl hid) ?_ (fun _ _ hcall => .inl hcall)
    · exact Association.get?_set_of_ne _ _ hne
    · intro pool hpool
      have hpool : course.pools.ready.get? name = some pool := by
        rwa [connect, Association.get?_erase_of_ne _ hne] at hpool
      exact .inl (.inl hpool)
  | call other =>
    cases hseeks : course.pools.seeks? other with
    | some sought =>
      rw [act_call_of_seeks hseeks]
      exact (h.enter hflight hwaiting hseeks).resume (hwaiting.move hflight (move_enter hseeks)) _
    | none =>
      obtain ⟨ready, outcome, hcall, -, -, hat, -⟩ := call_of_not_seeks hseeks
      simp only [Course.act, hcall, hseeks]
      have hsince : since name (course.log ++ [.asked course.calls.length other]) = since name course.log :=
        since_quiet (by simp [Event.Quiet]) name _
      refine h.grow hwaiting (extends_of_creations rfl) rfl (fun _ _ _ hmay => hmay)
        (by rw [hsince]; exact List.Subset.refl _) (by rw [hsince]; exact fun _ hid => .inl hid) ?_ ?_
      · intro pool hpool
        exact .inl (hat name pool hpool)
      · intro call caller hcaller
        rcases standing_of_concat hcaller with hold | ⟨-, hlast⟩
        · exact .inl hold
        · cases hlast
  | begin id given =>
    obtain ⟨hdatabases, hready, -⟩ := tables_begin course.pools id given
    refine h.grow hwaiting hextends ?_ (fun _ _ _ hmay => mayGive_of_begin hmay) (List.Subset.refl _)
      (fun _ hid => .inl hid) ?_ (fun _ _ hcall => .inl hcall)
    · rw [hdatabases]
    · intro pool hpool
      rw [hready] at hpool
      exact .inl (.inl hpool)
  | finish id outcome =>
    obtain ⟨hdatabases, hready, -⟩ := tables_finish course.pools id outcome
    refine h.grow hwaiting hextends ?_ (fun _ _ _ hmay => mayGive_of_finish hmay) (List.Subset.refl _)
      (fun _ hid => .inl hid) ?_ (fun _ _ hcall => .inl hcall)
    · rw [hdatabases]
    · intro pool hpool
      rw [hready] at hpool
      exact .inl (.inl hpool)
  | resume call => exact h.resume hwaiting call
  | abandon call => exact absurd rfl (ha call)

/-! ## The callers after a registration -/

/-- Who asks from a given call on has what the registration gives, or waits for it. -/
def Answered (name : String) (database : Database) (first : Nat) (course : Course) : Prop :=
  ∀ call, first ≤ call → .asked call name ∈ course.log → course.StandsIn database (since name course.log) call

theorem Course.StandsIn.mono {ids' : List Nat} {call : Nat} (h : course.StandsIn database ids call)
    (hids : ids ⊆ ids') : course.StandsIn database ids' call := by
  obtain ⟨standing, hcall, hsound⟩ := h
  exact ⟨standing, hcall, hsound.mono hids (extends_of_creations rfl)⟩

/-- When a name is registered, nobody has asked for it since. -/
theorem answered_connect (hrecorded : Recorded course) :
    Answered name database course.calls.length (course.act (.connect name database)) := by
  intro call hfirst hmem
  have hmem : Event.asked call name ∈ course.log := by simpa [Course.act] using hmem
  have hlt := hrecorded.asked_lt hmem
  omega

/-- **Who asks has what is at hand, or waits for the creation that it joins.** -/
theorem standsIn_call
    (hat : ∀ {pool}, course.pools.AtHand name pool → course.pools.Belongs database (since name course.log) pool)
    (hjoins : ∀ {sought}, course.pools.seeks? name = some sought →
      (course.pools.join name sought).2.creation ∈ since name (course.enter name sought).log) :
    (course.act (.call name)).StandsIn database (since name (course.act (.call name)).log) course.calls.length := by
  cases hseeks : course.pools.seeks? name with
  | some sought =>
    rw [act_call_of_seeks hseeks, log_resume]
    have hentered : (course.enter name sought).StandsIn database (since name (course.enter name sought).log)
        course.calls.length :=
      ⟨.waits (course.pools.join name sought).2, by simp [Course.enter], hjoins hseeks⟩
    exact hentered.moves (moves_resume _ _)
  | none =>
    obtain ⟨ready, outcome, hcall, -, -, -, hserved⟩ := call_of_not_seeks hseeks
    have hsince : since name (course.log ++ [.asked course.calls.length name]) = since name course.log :=
      since_quiet (by simp [Event.Quiet]) name _
    simp only [Course.act, hcall, hseeks]
    rw [hsince]
    refine ⟨.served outcome, by simp, ?_⟩
    cases outcome with
    | ok pool => exact (hat (hserved pool rfl)).mono (List.Subset.refl _) (extends_of_creations rfl)
    | error fault => trivial

theorem Renewed.standsIn (h : Renewed name database created course) (hflight : Flight course)
    (hwaiting : Waiting course) :
    (course.act (.call name)).StandsIn database (since name (course.act (.call name)).log) course.calls.length :=
  standsIn_call h.belongs fun hseeks =>
    (hflight.move hwaiting (move_enter hseeks)).current (current_join course.pools name _).1

theorem Answered.act (h : Answered name database first course) (hrenewed : Renewed name database created course)
    (hflight : Flight course) (hwaiting : Waiting course) {a : Act} (ha : ∀ call, a ≠ .abandon call)
    (hname : ∀ other, a ≠ .connect name other) : Answered name database first (course.act a) := by
  intro call hfirst hmem
  rcases asked_of_act hmem with hold | ⟨rfl, rfl⟩
  · exact ((h call hfirst hold).moves (moves_act course ha)).mono (since_act hname)
  · exact hrenewed.standsIn hflight hwaiting

theorem answered_acts {mid : List Act} (hmid : ∀ other, .connect name other ∉ mid)
    (habandon : ∀ call, .abandon call ∉ mid) (hrenewed : Renewed name database created course)
    (hanswered : Answered name database first course) (hflight : Flight course) (hwaiting : Waiting course) :
    Renewed name database created (mid.foldl act course) ∧ Answered name database first (mid.foldl act course) := by
  induction mid generalizing course with
  | nil => exact ⟨hrenewed, hanswered⟩
  | cons a mid ih =>
    have ha : ∀ call, a ≠ .abandon call := by
      rintro call rfl
      exact habandon call List.mem_cons_self
    have hname : ∀ other, a ≠ .connect name other := by
      rintro other rfl
      exact hmid other List.mem_cons_self
    obtain ⟨hflight', hwaiting'⟩ := flight_waiting_moves (moves_act course ha) hflight hwaiting
    exact ih (fun other hmem => hmid other (List.mem_cons_of_mem _ hmem))
      (fun call hmem => habandon call (List.mem_cons_of_mem _ hmem))
      (hrenewed.act hflight hwaiting ha hname) (hanswered.act hrenewed hflight hwaiting ha hname) hflight' hwaiting'

end

/-! ## The theorem -/

theorem Belongs.stemsFrom {pools : Pools} {created : Nat} {pool : Pool} (h : pools.Belongs database ids pool)
    (hids : ∀ id ∈ ids, created ≤ id ∧ (∀ own, database ≠ .ready own) ∧ ∃ creation : Creation,
      pools.creations[id]? = some creation ∧ creation.name = name ∧ creation.database = database) :
    pools.StemsFrom name database created pool := by
  rcases h with rfl | ⟨id, hid, hended⟩
  · rfl
  · obtain ⟨hcreated, haddress, ⟨name', database', progress⟩, hc, rfl, rfl⟩ := hids id hid
    obtain rfl : progress = .ended (.ok pool) := by simpa [Pools.progress, hc] using hended
    have hgiven : ∃ id, created ≤ id ∧ pools.creations[id]? = some ⟨name', database', .ended (.ok pool)⟩ :=
      ⟨id, hcreated, hc⟩
    cases database' with
    | ready own => exact absurd rfl (haddress own)
    | address object text => exact hgiven
    | function object => exact hgiven

theorem Belongs.unique {pools : Pools} {pool pool' : Pool} (h : pools.Belongs database ids pool)
    (h' : pools.Belongs database ids pool') (haddress : ids ≠ [] → ∀ own, database ≠ .ready own)
    (hfailed : ids.Pairwise fun earlier _ => pools.Failed earlier) : pool = pool' := by
  have hnone : ∀ {id own}, id ∈ ids → database ≠ .ready own := fun hid =>
    haddress (List.ne_nil_of_mem hid) _
  rcases h with hready | ⟨id, hid, hended⟩
  · rcases h' with hready' | ⟨id', hid', -⟩
    · rw [hready] at hready'
      exact Database.ready.inj hready'
    · exact absurd hready (hnone hid')
  · rcases h' with hready' | ⟨id', hid', hended'⟩
    · exact absurd hready' (hnone hid)
    · by_cases heq : id = id'
      · subst heq
        rw [hended] at hended'
        simpa using hended'
      · -- one of the two comes before the other, and so has failed
        have : Std.Symm fun earlier later => pools.Failed earlier ∨ pools.Failed later := ⟨fun _ _ => Or.symm⟩
        have heither : ids.Pairwise fun earlier later => pools.Failed earlier ∨ pools.Failed later :=
          hfailed.imp Or.inl
        rcases heither.forall hid hid' heq with ⟨fault, hfault⟩ | ⟨fault, hfault⟩
        · rw [hended] at hfault
          cases hfault
        · rw [hended'] at hfault
          cases hfault

theorem renewed_connect
    (hspent : ∀ (call : Nat) (caller : Caller), course.calls[call]? = some (.waits caller) → caller.name = name →
      caller.database = database → ∀ pool, ¬ course.pools.MayGive caller.creation pool) :
    Renewed name database course.pools.creations.length (course.act (.connect name database)) := by
  have hsince : since name (course.act (.connect name database)).log = [] := by
    show since name (course.log ++ [.registered name database]) = []
    simp [since_append, Event.note]
  refine ⟨databases_connect _ _ _, Nat.le_refl _, ?_, ?_, ?_⟩
  · intro id hid
    simp [hsince] at hid
  · intro pool hpool
    have hpool : (course.pools.connect name database).ready.get? name = some pool := hpool
    rw [ready_connect] at hpool
    cases hpool
  · intro call caller hcall hname hdatabase
    exact .inr (hspent call caller hcall hname hdatabase)

/-- If a caller waits for a creation that may still give a pool, and the same object is registered again, the
creation ends, the caller goes on, and the next to ask is served that pool. -/
theorem stale_pool_served {call : Nat} {caller : Caller} {pool : Pool}
    (hcall : course.calls[call]? = some (.waits caller)) (hmay : course.pools.MayGive caller.creation pool) :
    ∃ given, let spoiled := [.begin caller.creation given, .finish caller.creation (.ok pool), .resume call,
        .call caller.name].foldl act (course.act (.connect caller.name caller.database))
      .asked course.calls.length caller.name ∈ spoiled.log ∧
        spoiled.calls[course.calls.length]? = some (.served (.ok pool)) ∧
        spoiled.pools.creations.length = course.pools.creations.length := by
  let connected := course.pools.connect caller.name caller.database
  have hmay : connected.MayGive caller.creation pool := (mayGive_congr rfl).mpr hmay
  obtain ⟨given, hended⟩ := progress_finish_begin hmay
  refine ⟨given, ?_⟩
  intro spoiled
  let ended := (connected.begin caller.creation given).1.finish caller.creation (.ok pool)
  obtain ⟨hdatabases, -, -, hlength⟩ := tables_begin connected caller.creation given
  obtain ⟨hdatabases', -, -, hlength'⟩ :=
    tables_finish (connected.begin caller.creation given).1 caller.creation (.ok pool)
  have hregistered : ended.databases.get? caller.name = some caller.database := by
    show ((connected.begin caller.creation given).1.finish caller.creation (.ok pool)).databases.get? _ = _
    rw [hdatabases', hdatabases]
    exact databases_connect _ _ _
  -- the caller takes the registration for its own and leaves its pool at hand
  have hready := ready_resume ended caller hended hregistered
  let meanwhile : Course := ⟨ended, course.calls, course.log ++ [.registered caller.name caller.database]⟩
  have hresumed : meanwhile.act (.resume call) = ⟨(ended.resume caller).1,
      course.calls.set call (ended.resume caller).2, meanwhile.log⟩ := act_resume_of_waits hcall
  have hspoiled : spoiled = (⟨(ended.resume caller).1, course.calls.set call (ended.resume caller).2,
      meanwhile.log⟩ : Course).act (.call caller.name) := by
    rw [← hresumed]
    rfl
  rw [hspoiled]
  refine ⟨by simp [act], ?_, ?_⟩
  · simp [act, Pools.call, hready]
  · simp only [act, Pools.call, hready, creations_resume]
    exact hlength'.trans hlength

/-- **Registering takes effect exactly if nobody waits with the same object for a creation that may give a pool.**
-/
theorem takesEffect_iff {acts : List Act} (hacts : ∀ call, .abandon call ∉ acts) (name : String)
    (database : Database) :
    (after acts).TakesEffect name database ↔
      ∀ (call : Nat) (caller : Caller), (after acts).calls[call]? = some (.waits caller) → caller.name = name →
        caller.database = database → ∀ pool, ¬ (after acts).pools.MayGive caller.creation pool := by
  have haddressed := addressed_after hacts
  obtain ⟨hflight, hwaiting⟩ := flight_waiting_after hacts
  constructor
  · intro htakes call caller hcall hname hdatabase pool hmay
    subst hname hdatabase
    obtain ⟨given, hasked, hserved, hlength⟩ := stale_pool_served hcall hmay
    obtain ⟨hstems, -⟩ := htakes [.begin caller.creation given, .finish caller.creation (.ok pool), .resume call,
      .call caller.name] [] (by simp) (by simp)
    obtain ⟨-, creation, hc, -, hdatabase⟩ := hwaiting.waits hcall
    have hgiven := hstems (after acts).calls.length pool ⟨Nat.le_refl _, hasked, hserved⟩
    unfold StemsFrom at hgiven
    split at hgiven
    case h_1 own heq => exact haddressed _ creation hc own (hdatabase.trans heq)
    case h_2 =>
      obtain ⟨id, hid, hc⟩ := hgiven
      have hlt := (List.getElem?_eq_some_iff.mp hc).1
      rw [List.foldl_nil, hlength] at hlt
      omega
  · intro hspent mid rest hmid hrest meanwhile later Served
    have hrenewed := renewed_connect hspent
    have hanswered : Answered name database _ _ := answered_connect (recorded_after acts)
    have hmidacts : ∀ call, .abandon call ∉ mid := fun call h => hrest call (List.mem_append_left _ h)
    have hrestacts : ∀ call, .abandon call ∉ rest := fun call h => hrest call (List.mem_append_right _ h)
    have hallacts : ∀ call, .abandon call ∉ acts ++ .connect name database :: mid := by
      intro call hmem
      rcases List.mem_append.mp hmem with h | h
      · exact hacts call h
      · exact hmidacts call (by simpa using h)
    have hmeanwhile : meanwhile = after (acts ++ .connect name database :: mid) := by
      rw [after_append]
      rfl
    obtain ⟨hflight', hwaiting'⟩ := flight_waiting_after hallacts
    have haddressed' := addressed_after hallacts
    rw [← hmeanwhile] at hflight' haddressed'
    obtain ⟨hflight₀, hwaiting₀⟩ := flight_waiting_moves
      (moves_act (after acts) (a := .connect name database) (by simp)) hflight hwaiting
    obtain ⟨hrenewed', hanswered'⟩ := answered_acts hmid hmidacts hrenewed hanswered hflight₀ hwaiting₀
    have hlast : Moves meanwhile later := moves_acts hrestacts _
    have hbelongs : ∀ call pool, Served call pool →
        later.pools.Belongs database (since name meanwhile.log) pool := by
      rintro call pool ⟨hfirst, hasked, hserved⟩
      obtain ⟨standing, hcall, hsound⟩ := (hanswered' call hfirst hasked).moves hlast
      obtain rfl : standing = .served (.ok pool) := by simpa [hcall] using hserved
      exact hsound
    have howned := hrenewed'.owned hflight' haddressed' (extends_moves hlast)
    refine ⟨fun call pool h => (hbelongs call pool h).stemsFrom howned, ?_⟩
    intro call call' pool pool' h h'
    refine (hbelongs call pool h).unique (hbelongs call' pool' h') ?_ ?_
    · intro hne
      obtain ⟨id, hid⟩ := List.exists_mem_of_ne_nil _ hne
      exact (howned id hid).2.1
    · exact (failed_pairwise fun _ _ => hflight'.earlier).imp (extends_moves hlast).failed

/-- A function is registered and its pool is asked for, and a creation opens what the function gives. -/
def oneWaits : List Act := [.connect "db" (.function 0), .call "db", .begin 0 (.ok "postgres://host/before")]

theorem takesEffect_of_new_object :
    (∀ call, .abandon call ∉ oneWaits) ∧ (after oneWaits).TakesEffect "db" (.function 1) := by
  have hacts : ∀ call, .abandon call ∉ oneWaits := by
    intro call
    simp [oneWaits]
  refine ⟨hacts, (takesEffect_iff hacts _ _).mpr ?_⟩
  intro call caller hcall _ hdatabase
  have hcalls : (after oneWaits).calls = [.waits ⟨"db", .function 0, 0⟩] := rfl
  rw [hcalls] at hcall
  obtain rfl : caller = ⟨"db", .function 0, 0⟩ := by
    simpa using List.mem_of_getElem? hcall
  simp at hdatabase

/-- The creation ends and its caller goes on, and then another caller asks. -/
def thenOneAsks : List Act := [.finish 0 (.ok "old"), .resume 0, .call "db"]

/-- **The same function, registered again, is not called again**, whatever it would give now: the pool of the creation
that was waited for is served to a caller who asks after. -/
theorem same_object_keeps_old_pool :
    ¬ (after oneWaits).TakesEffect "db" (.function 0) ∧
    (after (oneWaits ++ .connect "db" (.function 0) :: thenOneAsks)).calls =
      [.served (.ok "old"), .served (.ok "old")] ∧
    (after (oneWaits ++ .connect "db" (.function 0) :: thenOneAsks)).pools.creations.length =
      (after oneWaits).pools.creations.length := by
  refine ⟨?_, rfl, rfl⟩
  intro htakes
  obtain ⟨hstems, -⟩ := htakes thenOneAsks [] (by simp [thenOneAsks]) (by simp [thenOneAsks])
  have hasked : .asked 1 "db" ∈ (thenOneAsks.foldl act ((after oneWaits).act (.connect "db" (.function 0)))).log := by
    show Event.asked 1 "db" ∈ [.registered "db" _, .asked 0 "db", .created 0 "db", .joined 0 0, .registered "db" _,
      .asked 1 "db"]
    simp
  obtain ⟨id, hid, hc⟩ := hstems 1 "old" ⟨Nat.le_refl 1, hasked, rfl⟩
  have hlt : id < 1 := (List.getElem?_eq_some_iff.mp hc).1
  have hid : 1 ≤ id := hid
  omega

end ModelStore.Pools

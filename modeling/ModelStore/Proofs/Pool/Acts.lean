import ModelStore.Proofs.Pool.Reconnection

/-!
# What acts do to one name

Being called off is no move (`Move` leaves it out), so what holds of every move does not hold of every act. A caller
that is called off differs from one that goes on only in that it is served no pool and leaves none at hand: it closes
its creation just the same, if that has ended.

Here is what any act does to the tables of one name, as long as the name is not registered anew. Little is ever undone
(`extends_act`, `tables_act`). **A creation for the name is started by a call that finds none to join, and by nothing
else** (`since_act_cases`), and what the log does not tell of is not there (`lt_length_of_since`); and nobody waits for a
name under which nothing was registered (`unsought_after`).
-/

namespace ModelStore.Pools

open Course

variable {course : Course} {name : String} {database : Database} {a : Act}

/-! ## Nothing is undone -/

/-- **No act undoes anything**, be a caller called off or not. -/
theorem extends_act (course : Course) (a : Act) : Extends course.pools (course.act a).pools := by
  by_cases habandon : ∃ call, a = .abandon call
  · obtain ⟨call, rfl⟩ := habandon
    rcases act_abandon_cases course call with hsame | ⟨caller, -, hact⟩
    · rw [hsame]
      exact extends_of_creations rfl
    · rw [hact]
      exact extends_of_creations (creations_retire _ _)
  · exact extends_moves (moves_act course fun call heq => habandon ⟨call, heq⟩)

theorem extends_acts (course : Course) (acts : List Act) : Extends course.pools (acts.foldl act course).pools := by
  induction acts generalizing course with
  | nil => exact extends_of_creations rfl
  | cons a acts ih => exact (extends_act course a).trans (ih _)

theorem not_connect_of_split {acts : List Act} (hacts : ∀ other, .connect name other ∉ acts) {early late : List Act}
    (hsplit : acts = early ++ a :: late) : ∀ other, a ≠ .connect name other := by
  rintro other rfl
  exact hacts other (by simp [hsplit])

/-- What is registered under the name stays so, and a pool at hand stays at hand. -/
theorem tables_act (hname : ∀ other, a ≠ .connect name other) :
    (course.act a).pools.databases.get? name = course.pools.databases.get? name ∧
      (course.pools.ready.get? name ≠ none → (course.act a).pools.ready.get? name ≠ none) := by
  cases a with
  | connect other registered =>
    have hne : name ≠ other := by
      rintro rfl
      exact hname registered rfl
    refine ⟨Association.get?_set_of_ne _ _ hne, fun hready => ?_⟩
    show (course.pools.ready.erase other).get? name ≠ none
    rwa [Association.get?_erase_of_ne _ hne]
  | call other =>
    show (course.pools.call other).1.databases.get? name = _ ∧ (_ → (course.pools.call other).1.ready.get? name ≠ none)
    cases hseeks : course.pools.seeks? other with
    | some sought =>
      obtain ⟨hdatabases, hready⟩ := tables_join course.pools other sought
      rw [call_of_seeks hseeks, databases_resume, hdatabases]
      exact ⟨rfl, fun h => ready_resume_of_ready _ _ (by rwa [hready])⟩
    | none =>
      obtain ⟨ready, outcome, hcall, hready, -⟩ := call_of_not_seeks hseeks
      rw [hcall]
      exact ⟨rfl, hready name⟩
  | begin id given =>
    obtain ⟨hdatabases, hready, -⟩ := tables_begin course.pools id given
    refine ⟨?_, fun h => ?_⟩
    · show (course.pools.begin id given).1.databases.get? name = _
      rw [hdatabases]
    · show (course.pools.begin id given).1.ready.get? name ≠ none
      rwa [hready]
  | finish id outcome =>
    obtain ⟨hdatabases, hready, -⟩ := tables_finish course.pools id outcome
    refine ⟨?_, fun h => ?_⟩
    · show (course.pools.finish id outcome).databases.get? name = _
      rw [hdatabases]
    · show (course.pools.finish id outcome).ready.get? name ≠ none
      rwa [hready]
  | resume call =>
    rcases act_resume_cases course call with hsame | ⟨caller, outcome, -, -, hact⟩
    · rw [hsame]
      exact ⟨rfl, fun h => h⟩
    · rw [hact]
      exact ⟨by rw [databases_resume], ready_resume_of_ready _ _⟩
  | abandon call =>
    rcases act_abandon_cases course call with hsame | ⟨caller, -, hact⟩
    · rw [hsame]
      exact ⟨rfl, fun h => h⟩
    · rw [hact]
      exact ⟨by rw [databases_retire], fun h => by rwa [ready_retire]⟩

theorem length_calls_acts (acts : List Act) (course : Course) :
    course.calls.length ≤ (acts.foldl act course).calls.length := by
  induction acts generalizing course with
  | nil => exact Nat.le_refl _
  | cons a acts ih =>
    refine Nat.le_trans ?_ (ih (course.act a))
    cases a with
    | connect other registered => exact Nat.le_refl _
    | call other => simp [act]
    | begin id given => exact Nat.le_refl _
    | finish id outcome => exact Nat.le_refl _
    | resume call =>
      rcases act_resume_cases course call with hsame | ⟨caller, outcome, -, -, hact⟩
      · exact Nat.le_of_eq (by rw [hsame])
      · simp [hact]
    | abandon call =>
      rcases act_abandon_cases course call with hsame | ⟨caller, -, hact⟩
      · exact Nat.le_of_eq (by rw [hsame])
      · simp [hact]

/-! ## Creations of the name -/

/-- What a going caller does to the entry of a name: nothing, or it closes the creation it waited for. -/
theorem current_retire_cases (pools : Pools) (caller : Caller) (name : String) :
    (pools.retire caller).current.get? name = pools.current.get? name ∨
      caller.name = name ∧ pools.current.get? name = some caller.creation ∧
        (∃ outcome, pools.progress caller.creation = .ended outcome) ∧
        (pools.retire caller).current.get? name = none := by
  by_cases hcurrent : pools.current.get? name = some caller.creation
  case neg => exact .inl (current_retire_of_ne _ _ hcurrent)
  by_cases hended : ∃ outcome, pools.progress caller.creation = .ended outcome
  case neg =>
    left
    unfold retire
    split
    · exact absurd ⟨_, by assumption⟩ hended
    · rfl
  obtain ⟨outcome, hended⟩ := hended
  by_cases hname : caller.name = name
  · subst hname
    refine .inr ⟨rfl, hcurrent, ⟨outcome, hended⟩, ?_⟩
    simp [retire, hended, hcurrent, Association.get?_erase_self]
  · left
    unfold retire
    rw [hended]
    dsimp only
    split
    · exact Association.get?_erase_of_ne _ (Ne.symm hname)
    · rfl

theorem since_enter (course : Course) (other : String) (sought : Database) :
    since name (course.enter other sought).log =
      if other = name ∧ course.pools.current.get? name = none
        then since name course.log ++ [course.pools.creations.length] else since name course.log := by
  by_cases hname : other = name
  · subst hname
    cases hcurrent : course.pools.current.get? other with
    | none => simp [enter, joinEvents, hcurrent, since_append, Event.note]
    | some id => simp [enter, joinEvents, hcurrent, since_append, Event.note]
  · cases hcurrent : course.pools.current.get? other with
    | none => simp [enter, joinEvents, hcurrent, hname, since_append, Event.note]
    | some id => simp [enter, joinEvents, hcurrent, hname, since_append, Event.note]

theorem current_enter_of_ne (course : Course) {other : String} (hne : name ≠ other) (sought : Database) :
    (course.enter other sought).pools.current.get? name = course.pools.current.get? name := by
  show (course.pools.join other sought).1.current.get? name = _
  unfold join
  split
  · rfl
  · exact Association.get?_set_of_ne _ _ hne

/-- **A creation of the name is started only by a call for it that finds none to join**; nothing else adds to the
creations of the registration or lets one be joined that could not be. -/
theorem since_act_cases (course : Course) (hname : ∀ other, a ≠ .connect name other) :
    (since name (course.act a).log = since name course.log ∧ (a ≠ .call name →
        ∀ id, (course.act a).pools.current.get? name = some id → course.pools.current.get? name = some id)) ∨
      a = .call name ∧ course.pools.current.get? name = none ∧
        (∃ sought, course.pools.seeks? name = some sought) ∧
        since name (course.act a).log = since name course.log ++ [course.pools.creations.length] := by
  cases a with
  | connect other registered =>
    have hne : other ≠ name := by
      rintro rfl
      exact hname registered rfl
    refine .inl ⟨?_, fun _ id hcurrent => Association.get?_of_erase hcurrent⟩
    show since name (course.log ++ [.registered other registered]) = _
    simp [since_append, Event.note, hne]
  | call other =>
    cases hseeks : course.pools.seeks? other with
    | none =>
      obtain ⟨ready, outcome, hcall, -⟩ := call_of_not_seeks hseeks
      simp only [act, hcall, hseeks]
      exact .inl ⟨since_quiet (by simp [Event.Quiet]) name _, fun _ _ hcurrent => hcurrent⟩
    | some sought =>
      rw [act_call_of_seeks hseeks, log_resume, since_enter]
      by_cases hname : other = name
      · subst hname
        cases hcurrent : course.pools.current.get? other with
        | none => exact .inr ⟨rfl, rfl, ⟨sought, hseeks⟩, by simp⟩
        | some id => exact .inl ⟨by simp, fun hne => absurd rfl hne⟩
      · refine .inl ⟨by simp [hname], fun _ id hcurrent => ?_⟩
        rw [← current_enter_of_ne course (Ne.symm hname) sought]
        rcases act_resume_cases (course.enter other sought) course.calls.length with
          hsame | ⟨caller, outcome, -, hended, hact⟩
        · exact hsame ▸ hcurrent
        · rw [hact] at hcurrent
          exact current_of_retire _ _ (current_resume _ _ hended ▸ hcurrent)
  | begin id given =>
    obtain ⟨-, -, hcurrent, -⟩ := tables_begin course.pools id given
    exact .inl ⟨rfl, fun _ _ h => hcurrent ▸ h⟩
  | finish id outcome =>
    obtain ⟨-, -, hcurrent, -⟩ := tables_finish course.pools id outcome
    exact .inl ⟨rfl, fun _ _ h => hcurrent ▸ h⟩
  | resume call =>
    rcases act_resume_cases course call with hsame | ⟨caller, outcome, -, hended, hact⟩
    · rw [hsame]
      exact .inl ⟨rfl, fun _ _ h => h⟩
    · rw [hact]
      exact .inl ⟨rfl, fun _ _ h => current_of_retire _ _ (current_resume _ _ hended ▸ h)⟩
  | abandon call =>
    rcases act_abandon_cases course call with hsame | ⟨caller, -, hact⟩
    · rw [hsame]
      exact .inl ⟨rfl, fun _ _ h => h⟩
    · rw [hact]
      exact .inl ⟨rfl, fun _ _ h => current_of_retire _ _ h⟩

theorem since_prefix_acts {acts : List Act} (hname : ∀ other, .connect name other ∉ acts) (course : Course) :
    since name course.log <+: since name (acts.foldl act course).log := by
  induction acts generalizing course with
  | nil => exact List.prefix_refl _
  | cons a acts ih =>
    have ha : ∀ other, a ≠ .connect name other := by
      rintro other rfl
      exact hname other List.mem_cons_self
    refine List.IsPrefix.trans ?_ (ih (fun other hmem => hname other (List.mem_cons_of_mem _ hmem)) (course.act a))
    rcases since_act_cases course ha with ⟨hsame, -⟩ | ⟨-, -, -, hmore⟩
    · exact hsame ▸ List.prefix_refl _
    · exact hmore ▸ List.prefix_append _ _

theorem log_acts {acts : List Act} (hname : ∀ other, .connect name other ∉ acts) (course : Course) :
    ∃ events, (acts.foldl act course).log = course.log ++ events ∧ ∀ other, .registered name other ∉ events := by
  induction acts generalizing course with
  | nil => exact ⟨[], by simp, by simp⟩
  | cons a acts ih =>
    obtain ⟨first, hfirst, hregistered, -⟩ := log_act course a
    obtain ⟨rest, hrest, hquiet⟩ := ih (fun other hmem => hname other (List.mem_cons_of_mem _ hmem)) (course.act a)
    refine ⟨first ++ rest, by rw [List.foldl_cons, hrest, hfirst, List.append_assoc], ?_⟩
    intro other hmem
    rcases List.mem_append.mp hmem with hmem | hmem
    · exact hname other (hregistered name other hmem ▸ List.mem_cons_self)
    · exact hquiet other hmem

/-- **If the log tells of no further creation of the name, there is none.** -/
theorem lt_length_of_since {acts : List Act} (hrecorded : Recorded course)
    (hname : ∀ other, .connect name other ∉ acts)
    (hsame : since name (acts.foldl act course).log = since name course.log) {id : Nat} {creation : Creation}
    (hc : (acts.foldl act course).pools.creations[id]? = some creation) (hcreation : creation.name = name) :
    id < course.pools.creations.length := by
  have hknown : .created id name ∈ course.log := by
    obtain ⟨events, hlog, hquiet⟩ := log_acts hname course
    have hcreated := (hrecorded.acts acts).created_mem_iff.mpr ⟨creation, hc, hcreation⟩
    rw [hlog] at hcreated
    rcases List.mem_append.mp hcreated with hold | hnew
    · exact hold
    · apply created_of_mem_since
      rw [← hsame, hlog, since_append]
      exact mem_foldl_note_of_created hquiet hnew _
  obtain ⟨before, hbefore, -⟩ := hrecorded.created_mem_iff.mp hknown
  exact (List.getElem?_eq_some_iff.mp hbefore).1

/-! ## Callers of the name -/

theorem mem_calls_set {calls : List Standing} {call : Nat} {caller : Caller} {outcome : Except Fault Pool}
    (h : .waits caller ∈ calls.set call (.served outcome)) : .waits caller ∈ calls := by
  rcases List.mem_or_eq_of_mem_set h with hold | heq
  · exact hold
  · cases heq

theorem standsIn_act {ids : List Nat} {call : Nat} (h : course.StandsIn database ids call) (a : Act) :
    (course.act a).StandsIn database ids call := by
  by_cases habandon : ∃ other, a = .abandon other
  case neg => exact h.moves (moves_act course fun other heq => habandon ⟨other, heq⟩)
  obtain ⟨other, rfl⟩ := habandon
  rcases act_abandon_cases course other with hsame | ⟨caller, hother, hact⟩
  · rwa [hsame]
  obtain ⟨standing, hcall, hsound⟩ := h
  rw [hact]
  by_cases heq : other = call
  · subst heq
    exact ⟨.served (.error .abandoned), by simp [(List.getElem?_eq_some_iff.mp hother).1], trivial⟩
  · refine ⟨standing, by rw [List.getElem?_set_ne heq, hcall], ?_⟩
    exact hsound.mono (List.Subset.refl _) (extends_of_creations (creations_retire _ _))

/-- Who waits after an act waited before, or has asked just now for what is registered. -/
theorem waits_of_act {caller : Caller} (h : .waits caller ∈ (course.act a).calls) :
    .waits caller ∈ course.calls ∨ ∃ sought, course.pools.seeks? caller.name = some sought := by
  cases a with
  | connect other registered => exact .inl h
  | begin id given => exact .inl h
  | finish id outcome => exact .inl h
  | call other =>
    rcases List.mem_append.mp h with hold | hnew
    · exact .inl hold
    have hwaits : (course.pools.call other).2 = .waits caller := (List.mem_singleton.mp hnew).symm
    cases hseeks : course.pools.seeks? other with
    | some sought =>
      rw [call_of_seeks hseeks] at hwaits
      rw [of_resume_waits hwaits, (current_join _ _ _).2]
      exact .inr ⟨sought, hseeks⟩
    | none =>
      obtain ⟨ready, outcome, hcall, -⟩ := call_of_not_seeks hseeks
      rw [hcall] at hwaits
      cases hwaits
  | resume call =>
    rcases act_resume_cases course call with hsame | ⟨waiting, outcome, -, -, hact⟩
    · exact .inl (hsame ▸ h)
    · rw [hact] at h
      exact .inl (mem_calls_set h)
  | abandon call =>
    rcases act_abandon_cases course call with hsame | ⟨waiting, -, hact⟩
    · exact .inl (hsame ▸ h)
    · rw [hact] at h
      exact .inl (mem_calls_set h)

/-- **Nobody waits for a name under which nothing was registered.** -/
theorem unsought_after {acts : List Act} (hacts : ∀ other, .connect name other ∉ acts) :
    (after acts).pools.databases.get? name = none ∧
      ∀ caller, .waits caller ∈ (after acts).calls → caller.name ≠ name := by
  induction acts using List.reverseRecOn with
  | nil =>
    refine ⟨rfl, ?_⟩
    intro caller hmem
    exact absurd hmem List.not_mem_nil
  | append_singleton acts a ih =>
    obtain ⟨hdatabase, hwaits⟩ := ih fun other hmem => hacts other (List.mem_append_left _ hmem)
    rw [after_concat]
    refine ⟨?_, ?_⟩
    · rw [(tables_act (not_connect_of_split hacts rfl)).1, hdatabase]
    · rintro caller hmem rfl
      rcases waits_of_act hmem with hold | ⟨sought, hseeks⟩
      · exact hwaits caller hold rfl
      · have hregistered := (of_seeks hseeks).2
        rw [hdatabase] at hregistered
        cases hregistered

end ModelStore.Pools

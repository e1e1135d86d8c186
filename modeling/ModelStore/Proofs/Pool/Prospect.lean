import ModelStore.Proofs.Pool.Course

/-!
# What a creation may still give

A caller that waits for a creation does not know what it will be served, but not everything is possible: a
creation that has ended gives what it ended with, one whose address has no scheme of the engine's will fail, and
only a creation that can get as far as opening a pool may give *any* pool, as one can that has yet to call its
function. `MayGive` says this of a creation as it stands, and two facts make it worth saying:

* **what is possible can be brought about** (`progress_finish_begin`): start the creation, let its function give
  an address of the engine if it calls one, end it with the pool;
* **nothing becomes possible** (`mayGive_of_act`): no act whatever gives an old creation a prospect that it did
  not have.

So a statement that a creation cannot give a pool, made at one moment, is a statement about everything to come.
-/

namespace ModelStore.Pools

/-- A creation has given the pool, or is opening one, or will open one as soon as it starts. -/
def Creation.MayGive (creation : Creation) (pool : Pool) : Prop :=
  match creation.progress with
  | .waiting => ∃ given address, (Creation.address creation given).1.bind Address.accept = .ok address
  | .opening => True
  | .ended outcome => outcome = .ok pool

def MayGive (pools : Pools) (id : Nat) (pool : Pool) : Prop :=
  ∃ creation, pools.creations[id]? = some creation ∧ Creation.MayGive creation pool

variable {pools pools' : Pools} {id : Nat} {pool : Pool}

theorem mayGive_of_ended (h : pools.progress id = .ended (.ok pool)) : pools.MayGive id pool := by
  obtain ⟨creation, hc, hended⟩ := progress_ended_iff.mp h
  refine ⟨creation, hc, ?_⟩
  show Creation.MayGive creation pool
  rw [Creation.MayGive, hended]

/-- Of a creation's prospects only the creation itself is to be known. -/
theorem mayGive_congr (h : pools'.creations[id]? = pools.creations[id]?) :
    pools'.MayGive id pool ↔ pools.MayGive id pool := by
  unfold MayGive
  rw [h]

/-! ## What is possible can be brought about -/

theorem progress_advance (h : id < pools.creations.length) (progress : Progress) :
    (pools.advance id progress).progress id = progress := by
  simp [Pools.progress, advance, h]

theorem length_creations_advance (pools : Pools) (id : Nat) (progress : Progress) :
    (pools.advance id progress).creations.length = pools.creations.length := by
  simp [advance]

theorem progress_finish_begin (h : pools.MayGive id pool) :
    ∃ given, ((pools.begin id given).1.finish id (.ok pool)).progress id = .ended (.ok pool) := by
  obtain ⟨creation, hc, hmay⟩ := h
  have hlt : id < pools.creations.length := (List.getElem?_eq_some_iff.mp hc).1
  have hprogress : pools.progress id = creation.progress := by simp [Pools.progress, hc]
  unfold Creation.MayGive at hmay
  cases hcase : creation.progress with
  | waiting =>
    rw [hcase] at hmay
    obtain ⟨given, address, haccepted⟩ := hmay
    have hbegin : (pools.begin id given).1 = pools.advance id .opening := by
      simp only [begin, hc, hcase, haccepted]
    have hopening : (pools.advance id .opening).progress id = .opening := progress_advance hlt _
    refine ⟨given, ?_⟩
    rw [hbegin, finish, hopening]
    exact progress_advance (by rwa [length_creations_advance]) _
  | opening =>
    have hbegin : (pools.begin id (.ok "")).1 = pools := by simp only [begin, hc, hcase]
    refine ⟨.ok "", ?_⟩
    rw [hbegin, finish, hprogress, hcase]
    exact progress_advance hlt _
  | ended outcome =>
    rw [hcase] at hmay
    have hbegin : (pools.begin id (.ok "")).1 = pools := by simp only [begin, hc, hcase]
    refine ⟨.ok "", ?_⟩
    rw [hbegin, finish, hprogress, hcase]
    show pools.progress id = _
    rw [hprogress, hcase, hmay]

/-! ## What leaves the other tables alone -/

theorem tables_begin (pools : Pools) (id : Nat) (given : Except Fault String) :
    (pools.begin id given).1.databases = pools.databases ∧ (pools.begin id given).1.ready = pools.ready ∧
      (pools.begin id given).1.current = pools.current ∧
      (pools.begin id given).1.creations.length = pools.creations.length := by
  rcases begin_cases pools id given with h | ⟨progress, h, -⟩
  · rw [h]
    exact ⟨rfl, rfl, rfl, rfl⟩
  · rw [h]
    exact ⟨rfl, rfl, rfl, length_creations_advance _ _ _⟩

theorem tables_finish (pools : Pools) (id : Nat) (outcome : Except Fault Pool) :
    (pools.finish id outcome).databases = pools.databases ∧ (pools.finish id outcome).ready = pools.ready ∧
      (pools.finish id outcome).current = pools.current ∧
      (pools.finish id outcome).creations.length = pools.creations.length := by
  rcases finish_cases pools id outcome with h | ⟨progress, h, -⟩
  · rw [h]
    exact ⟨rfl, rfl, rfl, rfl⟩
  · rw [h]
    exact ⟨rfl, rfl, rfl, length_creations_advance _ _ _⟩

theorem tables_join (pools : Pools) (other : String) (database : Database) :
    (pools.join other database).1.databases = pools.databases ∧
      (pools.join other database).1.ready = pools.ready := by
  unfold join
  split
  · exact ⟨rfl, rfl⟩
  · exact ⟨rfl, rfl⟩

theorem current_join (pools : Pools) (other : String) (database : Database) :
    (pools.join other database).1.current.get? other = some (pools.join other database).2.creation ∧
      (pools.join other database).2.name = other := by
  unfold join
  split
  · exact ⟨by assumption, rfl⟩
  · exact ⟨Association.get?_set_self _ _ _, rfl⟩

/-! ## Nothing becomes possible -/

theorem creations_advance_of_ne {other : Nat} (hne : id ≠ other) (progress : Progress) :
    (pools.advance id progress).creations[other]? = pools.creations[other]? := by
  simp [advance, hne]

/-- A creation that could open a pool may give any pool, so it only loses by what comes of opening it. -/
theorem mayGive_of_begin {started : Nat} {given : Except Fault String}
    (h : (pools.begin started given).1.MayGive id pool) : pools.MayGive id pool := by
  unfold begin at h
  cases hc : pools.creations[started]? with
  | none =>
    rw [hc] at h
    exact h
  | some creation =>
    rw [hc] at h
    cases hprogress : creation.progress with
    | opening =>
      simp only [hprogress] at h
      exact h
    | ended outcome =>
      simp only [hprogress] at h
      exact h
    | waiting =>
      simp only [hprogress] at h
      by_cases hid : started = id
      · subst hid
        refine ⟨creation, hc, ?_⟩
        rw [Creation.MayGive, hprogress]
        cases haddress : (Creation.address creation given).1.bind Address.accept with
        | ok address => exact ⟨given, address, haddress⟩
        | error fault =>
          -- it has failed, so it may give nothing
          simp only [haddress] at h
          obtain ⟨failed, hfailed, hmay⟩ := h
          obtain rfl : { creation with progress := .ended (.error fault) } = failed := by
            simpa [advance, hc] using hfailed
          exact absurd hmay (by simp [Creation.MayGive])
      · split at h
        · exact (mayGive_congr (creations_advance_of_ne hid _)).mp h
        · exact (mayGive_congr (creations_advance_of_ne hid _)).mp h

theorem mayGive_of_finish {ended : Nat} {outcome : Except Fault Pool}
    (h : (pools.finish ended outcome).MayGive id pool) : pools.MayGive id pool := by
  unfold finish at h
  cases hprogress : pools.progress ended with
  | waiting =>
    rw [hprogress] at h
    exact h
  | ended _ =>
    rw [hprogress] at h
    exact h
  | opening =>
    rw [hprogress] at h
    by_cases hid : ended = id
    · subst hid
      cases hc : pools.creations[ended]? with
      | none => simp [Pools.progress, hc] at hprogress
      | some creation =>
        have hopening : creation.progress = .opening := by simpa [Pools.progress, hc] using hprogress
        refine ⟨creation, hc, ?_⟩
        rw [Creation.MayGive, hopening]
        trivial
    · exact (mayGive_congr (creations_advance_of_ne hid _)).mp h

theorem creations_join (pools : Pools) (name : String) (database : Database) (hlt : id < pools.creations.length) :
    (pools.join name database).1.creations[id]? = pools.creations[id]? := by
  unfold join
  split
  · rfl
  · exact List.getElem?_append_left hlt

theorem creations_call (pools : Pools) (name : String) (hlt : id < pools.creations.length) :
    (pools.call name).1.creations[id]? = pools.creations[id]? := by
  cases hseeks : pools.seeks? name with
  | some database => rw [call_of_seeks hseeks, creations_resume, creations_join _ _ _ hlt]
  | none =>
    obtain ⟨ready, outcome, hcall, -⟩ := call_of_not_seeks hseeks
    rw [hcall]

theorem length_creations_call (pools : Pools) (name : String) :
    pools.creations.length ≤ (pools.call name).1.creations.length := by
  apply Nat.le_of_not_lt
  intro hlt
  have hlast := creations_call pools name hlt
  rw [List.getElem?_eq_none (Nat.le_refl _)] at hlast
  exact Nat.not_le_of_lt hlt (List.getElem?_eq_none_iff.mp hlast.symm)

/-- **No act gives a creation a prospect that it did not have.** -/
theorem mayGive_of_act {course : Course} {a : Act} (ha : ∀ call, a ≠ .abandon call)
    (hlt : id < course.pools.creations.length) (h : (course.act a).pools.MayGive id pool) :
    course.pools.MayGive id pool := by
  cases a with
  | connect name database => exact h
  | call name => exact (mayGive_congr (creations_call _ name hlt)).mp h
  | begin started given => exact mayGive_of_begin h
  | finish ended outcome => exact mayGive_of_finish h
  | abandon call => exact absurd rfl (ha call)
  | resume call =>
    simp only [Course.act] at h
    split at h
    · exact (mayGive_congr (by rw [creations_resume])).mp h
    · exact h

end ModelStore.Pools

import Mathlib.Data.List.Induction
import ModelStore.Datastore
import ModelStore.Proofs.Pool.Prospect

/-!
# The pool that a store holds

A store without a pool looks one up when somebody needs it, and the lookup takes time. The store is asked whether it
has a pool *before* the lookup and is given one *after* it, and nobody asks a second time. So a caller that had to
wait long overwrites the pool that others have been served meanwhile, and the store that seemed to have settled on a
pool goes on with another.

**A store that has served a pool goes on with it exactly if it holds that pool and every caller that still waits can
only be given the same.** The pool it holds may be lost only to a caller who asked before there was one; nobody who
asks later ever waits.
-/

namespace ModelStore.Datastore

open Pools

/-! ## What happens to a store -/

inductive Act
  | connect (name : String) (database : Database)
  | call
  | begin (creation : Nat) (given : Except Fault String)
  | finish (creation : Nat) (outcome : Except Fault Pool)
  | resume (call : Nat)

/-- A store, the registry in which it looks its pool up, and those who asked the store for it. -/
structure Service where
  store : Datastore
  pools : Pools
  calls : List Standing

namespace Service

def act (service : Service) : Act → Service
  | .connect name database => { service with pools := service.pools.connect name database }
  | .call =>
    let (store, pools, standing) := service.store.call service.pools
    ⟨store, pools, service.calls ++ [standing]⟩
  | .begin creation given => { service with pools := (service.pools.begin creation given).1 }
  | .finish creation outcome => { service with pools := service.pools.finish creation outcome }
  | .resume call => match service.calls[call]? with
    | some (.waits caller) =>
      let (store, pools, standing) := service.store.resume service.pools caller
      ⟨store, pools, service.calls.set call standing⟩
    | _ => service

/-- What has come of some acts, if the store was made without a pool and nothing was registered. -/
def after (registry : ModelStore.Registry) (connectionName : String) (acts : List Act) : Service :=
  acts.foldl act ⟨⟨registry, connectionName, none⟩, .empty, []⟩

/-- Whoever asks from now on and is served a pool is served this one. -/
def Settles (service : Service) (pool : Pool) : Prop :=
  ∀ (acts : List Act) (call : Nat) (other : Pool), service.calls.length ≤ call →
    (acts.foldl act service).calls[call]? = some (.served (.ok other)) → other = pool

variable {service : Service} {pool : Pool}

theorem act_resume_of_waits {call : Nat} {caller : Caller} (h : service.calls[call]? = some (.waits caller)) :
    service.act (.resume call) = ⟨service.store.hold (service.pools.resume caller).2,
      (service.pools.resume caller).1, service.calls.set call (service.pools.resume caller).2⟩ := by
  simp only [act, h, Datastore.resume]

theorem act_resume_of_not_waits {call : Nat} (h : ∀ caller, service.calls[call]? ≠ some (.waits caller)) :
    service.act (.resume call) = service := by
  cases hcall : service.calls[call]? with
  | none => simp only [act, hcall]
  | some standing =>
    cases standing with
    | waits caller => exact absurd hcall (h caller)
    | served outcome => simp only [act, hcall]

theorem act_call_of_pool (h : service.store.pool = some pool) :
    service.act .call = ⟨service.store, service.pools, service.calls ++ [.served (.ok pool)]⟩ := by
  simp only [act, call_of_pool h]

theorem act_call_of_none (h : service.store.pool = none) :
    service.act .call = ⟨service.store.hold (service.pools.call service.store.connectionName).2,
      (service.pools.call service.store.connectionName).1,
      service.calls ++ [(service.pools.call service.store.connectionName).2]⟩ := by
  simp only [act, Datastore.call, h]

/-! ## Every store -/

/-- What may be joined is there. -/
def Joinable (pools : Pools) : Prop :=
  ∀ (name : String) (id : Nat), pools.current.get? name = some id → id < pools.creations.length

theorem joinable_join {pools : Pools} (h : Joinable pools) (name : String) (database : Database) :
    Joinable (pools.join name database).1 ∧
      (pools.join name database).2.creation < (pools.join name database).1.creations.length := by
  unfold join
  split
  case h_1 id hcurrent => exact ⟨h, h name id hcurrent⟩
  case h_2 =>
    refine ⟨?_, by simp⟩
    intro other id hcurrent
    show id < (pools.creations ++ [_]).length
    rcases of_current_create hcurrent with ⟨-, rfl⟩ | hcurrent
    · simp
    · have := h other id hcurrent
      simp only [List.length_append]
      omega

theorem joinable_resume {pools : Pools} (h : Joinable pools) (caller : Caller) :
    Joinable (pools.resume caller).1 := by
  intro name id hcurrent
  rw [creations_resume]
  by_cases hended : ∃ outcome, pools.progress caller.creation = .ended outcome
  · obtain ⟨outcome, hended⟩ := hended
    rw [current_resume _ _ hended] at hcurrent
    exact h name id (current_of_retire _ _ hcurrent)
  · rw [resume_of_not_ended _ _ (by simpa using hended)] at hcurrent
    exact h name id hcurrent

theorem joinable_call {pools : Pools} (h : Joinable pools) (name : String) :
    Joinable (pools.call name).1 ∧ ∀ caller, (pools.call name).2 = .waits caller →
      caller.creation < (pools.call name).1.creations.length := by
  cases hseeks : pools.seeks? name with
  | some database =>
    obtain ⟨hjoinable, hlt⟩ := joinable_join h name database
    rw [call_of_seeks hseeks]
    refine ⟨joinable_resume hjoinable _, ?_⟩
    intro caller hwaits
    rw [of_resume_waits hwaits, creations_resume]
    exact hlt
  | none =>
    obtain ⟨ready, outcome, hcall, -⟩ := call_of_not_seeks hseeks
    rw [hcall]
    exact ⟨h, by simp⟩

/-- Who waits, waits for a creation that there is, and a store that has served a pool holds one. -/
structure Sane (service : Service) : Prop where
  joinable : Joinable service.pools
  waits : ∀ (call : Nat) (caller : Caller), service.calls[call]? = some (.waits caller) →
    caller.creation < service.pools.creations.length
  holds : ∀ (call : Nat) (pool : Pool), service.calls[call]? = some (.served (.ok pool)) → service.store.pool ≠ none

theorem pool_hold_ok (store : Datastore) (pool : Pool) : (store.hold (.served (.ok pool))).pool = some pool :=
  rfl

theorem pool_hold_ne_none {store : Datastore} (h : store.pool ≠ none) (standing : Standing) :
    (store.hold standing).pool ≠ none := by
  unfold hold
  split
  · simp
  · exact h

/-- The progress of creations does not matter. -/
theorem Sane.registry (h : Sane service) {pools : Pools} (hcurrent : pools.current = service.pools.current)
    (hlength : pools.creations.length = service.pools.creations.length) : Sane { service with pools := pools } := by
  refine ⟨?_, ?_, h.holds⟩
  · intro other id hid
    rw [hlength]
    exact h.joinable other id (hcurrent ▸ hid)
  · intro call caller hcall
    rw [hlength]
    exact h.waits call caller hcall

theorem Sane.act (h : Sane service) (a : Act) : Sane (service.act a) := by
  cases a with
  | connect name database =>
    exact ⟨fun other id hcurrent => h.joinable other id (Association.get?_of_erase hcurrent), h.waits, h.holds⟩
  | begin creation given =>
    obtain ⟨-, -, hcurrent, hlength⟩ := tables_begin service.pools creation given
    exact h.registry hcurrent hlength
  | finish creation outcome =>
    obtain ⟨-, -, hcurrent, hlength⟩ := tables_finish service.pools creation outcome
    exact h.registry hcurrent hlength
  | call =>
    cases hpool : service.store.pool with
    | some pool =>
      rw [act_call_of_pool hpool]
      refine ⟨h.joinable, ?_, fun _ _ _ => by simp [hpool]⟩
      intro call caller hcall
      rcases standing_of_concat hcall with hold | ⟨-, hlast⟩
      · exact h.waits call caller hold
      · cases hlast
    | none =>
      rw [act_call_of_none hpool]
      obtain ⟨hjoinable, hwaits⟩ := joinable_call h.joinable service.store.connectionName
      refine ⟨hjoinable, ?_, ?_⟩
      · intro call caller hcall
        rcases standing_of_concat hcall with hold | ⟨-, hlast⟩
        · exact Nat.lt_of_lt_of_le (h.waits call caller hold) (length_creations_call _ _)
        · exact hwaits caller hlast.symm
      · intro call pool hcall
        rcases standing_of_concat hcall with hold | ⟨-, hlast⟩
        · exact absurd hpool (h.holds call pool hold)
        · rw [← hlast, pool_hold_ok]
          simp
  | resume call =>
    by_cases hwaits : ∃ caller, service.calls[call]? = some (.waits caller)
    case neg => rwa [act_resume_of_not_waits (by simpa using hwaits)]
    obtain ⟨caller, hcall⟩ := hwaits
    rw [act_resume_of_waits hcall]
    refine ⟨joinable_resume h.joinable caller, ?_, ?_⟩
    · intro other caller' hother
      show caller'.creation < (service.pools.resume caller).1.creations.length
      rw [creations_resume]
      rcases standing_of_set hother with hold | ⟨-, hnew⟩
      · exact h.waits other caller' hold
      · rw [of_resume_waits hnew]
        exact h.waits call caller hcall
    · intro other pool hother
      rcases standing_of_set hother with hold | ⟨rfl, hnew⟩
      · exact pool_hold_ne_none (h.holds other pool hold) _
      · show (service.store.hold (service.pools.resume caller).2).pool ≠ none
        rw [hnew, pool_hold_ok]
        simp

theorem sane_after (registry : ModelStore.Registry) (connectionName : String) (acts : List Act) :
    Sane (after registry connectionName acts) := by
  induction acts using List.reverseRecOn with
  | nil =>
    refine ⟨?_, ?_, ?_⟩
    · intro name id hcurrent
      simp [after, Pools.empty, Association.get?] at hcurrent
    · intro call caller hcall
      simp [after] at hcall
    · intro call pool hcall
      simp [after] at hcall
  | append_singleton acts a ih =>
    rw [after, List.foldl_append]
    exact ih.act a

/-! ## A store that has settled -/

/-- The store holds the pool, who still waits can be given no other, and whoever came late has been served it. -/
structure Settled (pool : Pool) (first : Nat) (service : Service) : Prop where
  held : service.store.pool = some pool
  early : ∀ (call : Nat) (caller : Caller), service.calls[call]? = some (.waits caller) →
    ∀ other, service.pools.MayGive caller.creation other → other = pool
  late : ∀ (call : Nat) (standing : Standing), first ≤ call → service.calls[call]? = some standing →
    standing = .served (.ok pool)

/-- Only what is said of creations and callers matters if the store and the calls are left alone. -/
theorem Settled.registry {first : Nat} (h : Settled pool first service) {pools : Pools}
    (hmay : ∀ (call : Nat) (caller : Caller), service.calls[call]? = some (.waits caller) → ∀ other,
      pools.MayGive caller.creation other → service.pools.MayGive caller.creation other) :
    Settled pool first { service with pools := pools } := by
  refine ⟨h.held, ?_, h.late⟩
  intro call caller hcall other hother
  exact h.early call caller hcall other (hmay call caller hcall other hother)

theorem Settled.act {first : Nat} (h : Settled pool first service) (a : Act) :
    Settled pool first (service.act a) := by
  cases a with
  | connect name database => exact h.registry fun _ _ _ _ hmay => hmay
  | begin creation given => exact h.registry fun _ _ _ _ hmay => mayGive_of_begin hmay
  | finish creation outcome => exact h.registry fun _ _ _ _ hmay => mayGive_of_finish hmay
  | call =>
    rw [act_call_of_pool h.held]
    refine ⟨h.held, ?_, ?_⟩
    · intro call caller hcall
      rcases standing_of_concat hcall with hold | ⟨-, hlast⟩
      · exact h.early call caller hold
      · cases hlast
    · intro call standing hfirst hcall
      rcases standing_of_concat hcall with hold | ⟨-, hlast⟩
      · exact h.late call standing hfirst hold
      · exact hlast
  | resume call =>
    by_cases hwaits : ∃ caller, service.calls[call]? = some (.waits caller)
    case neg => rwa [act_resume_of_not_waits (by simpa using hwaits)]
    obtain ⟨caller, hcall⟩ := hwaits
    rw [act_resume_of_waits hcall]
    refine ⟨?_, ?_, ?_⟩
    · -- a caller that goes on with a pool overwrites the store's, but with the same
      show (service.store.hold (service.pools.resume caller).2).pool = some pool
      cases hstanding : (service.pools.resume caller).2 with
      | waits waiting => exact h.held
      | served outcome =>
        cases outcome with
        | error fault => exact h.held
        | ok other =>
          have hmay := mayGive_of_ended (of_resume_served hstanding)
          rw [pool_hold_ok, h.early call caller hcall other hmay]
    · intro other caller' hother given hmay
      have hmay : service.pools.MayGive caller'.creation given := (mayGive_congr (by rw [creations_resume])).mp hmay
      rcases standing_of_set hother with hold | ⟨-, hnew⟩
      · exact h.early other caller' hold given hmay
      · rw [of_resume_waits hnew] at hmay
        exact h.early call caller hcall given hmay
    · intro other standing hfirst hother
      rcases standing_of_set hother with hold | ⟨rfl, -⟩
      · exact h.late other standing hfirst hold
      · -- who came late does not wait
        cases h.late other _ hfirst hcall

theorem Settled.acts {first : Nat} (h : Settled pool first service) (acts : List Act) :
    Settled pool first (acts.foldl Service.act service) := by
  induction acts generalizing service with
  | nil => exact h
  | cons a acts ih => exact ih (h.act a)

/-! ## The theorem -/

/-- If a caller waits that may be given a pool, it can be, and the store holds that pool from then on. -/
theorem overwritten {call : Nat} {caller : Caller} (hcall : service.calls[call]? = some (.waits caller))
    (hmay : service.pools.MayGive caller.creation pool) :
    ∃ given, let later := [.begin caller.creation given, .finish caller.creation (.ok pool), .resume call,
        .call].foldl act service
      later.calls[service.calls.length]? = some (.served (.ok pool)) := by
  obtain ⟨given, hended⟩ := progress_finish_begin hmay
  refine ⟨given, ?_⟩
  intro later
  let ended := (service.pools.begin caller.creation given).1.finish caller.creation (.ok pool)
  have hserved : (ended.resume caller).2 = .served (.ok pool) := resume_of_ended _ _ hended
  let meanwhile : Service := ⟨service.store, ended, service.calls⟩
  have hresumed : meanwhile.act (.resume call) = ⟨service.store.hold (.served (.ok pool)),
      (ended.resume caller).1, service.calls.set call (.served (.ok pool))⟩ := by
    rw [← hserved]
    exact act_resume_of_waits hcall
  have hlater : later = (meanwhile.act (.resume call)).act .call := rfl
  rw [hlater, hresumed, act_call_of_pool (pool_hold_ok _ _)]
  simp

/-- **A store that has served a pool serves it ever after exactly if it holds that pool and whoever still waits can
be given no other.** -/
theorem settles_iff (registry : ModelStore.Registry) (connectionName : String) {acts : List Act} {call : Nat}
    (hserved : (after registry connectionName acts).calls[call]? = some (.served (.ok pool))) :
    (after registry connectionName acts).Settles pool ↔
      (after registry connectionName acts).store.pool = some pool ∧
      ∀ (call : Nat) (caller : Caller), (after registry connectionName acts).calls[call]? = some (.waits caller) →
        ∀ other, (after registry connectionName acts).pools.MayGive caller.creation other → other = pool := by
  have hsane := sane_after registry connectionName acts
  generalize after registry connectionName acts = service at hserved hsane
  constructor
  · intro hsettles
    refine ⟨?_, ?_⟩
    · obtain ⟨held, hheld⟩ := Option.ne_none_iff_exists'.mp (hsane.holds call pool hserved)
      have hnext : (service.act .call).calls[service.calls.length]? = some (.served (.ok held)) := by
        rw [act_call_of_pool hheld]
        simp
      rw [hheld, hsettles [.call] _ held (Nat.le_refl _) hnext]
    · intro waiting caller hcall other hmay
      obtain ⟨given, hserved'⟩ := overwritten hcall hmay
      exact hsettles _ _ other (Nat.le_refl _) hserved'
  · rintro ⟨hheld, hearly⟩ more later other hlater hcall
    have hsettled : Settled pool service.calls.length service := by
      refine ⟨hheld, hearly, ?_⟩
      intro call standing hfirst hcall
      have := (List.getElem?_eq_some_iff.mp hcall).1
      omega
    have hstanding := (hsettled.acts more).late later _ hlater hcall
    simpa using hstanding

/-- A store waits for a pool, which is long in coming; the name is registered again with a pool that is ready, and
the store serves that. -/
def slowAndFast : List Act :=
  [.connect "db" (.address 0 "postgres://host/db"), .call, .connect "db" (.ready "new"), .call]

/-- The pool that was long in coming fails. -/
theorem settles_iff_of_failure :
    (after ⟨[]⟩ "db" (slowAndFast ++ [.begin 0 (.ok ""), .finish 0 (.error (.custom "refused"))])).calls[1]? =
      some (.served (.ok "new")) ∧
    (after ⟨[]⟩ "db" (slowAndFast ++ [.begin 0 (.ok ""), .finish 0 (.error (.custom "refused"))])).Settles "new" := by
  have hserved :
      (after ⟨[]⟩ "db" (slowAndFast ++ [.begin 0 (.ok ""), .finish 0 (.error (.custom "refused"))])).calls[1]? =
        some (.served (.ok "new")) := rfl
  refine ⟨hserved, (settles_iff ⟨[]⟩ "db" hserved).mpr ⟨rfl, ?_⟩⟩
  intro call caller hcall other hmay
  have hcalls : (after ⟨[]⟩ "db" (slowAndFast ++ [.begin 0 (.ok ""), .finish 0 (.error (.custom "refused"))])).calls =
      [.waits ⟨"db", .address 0 "postgres://host/db", 0⟩, .served (.ok "new")] := rfl
  rw [hcalls] at hcall
  obtain rfl : caller = ⟨"db", .address 0 "postgres://host/db", 0⟩ := by
    simpa using List.mem_of_getElem? hcall
  -- it has failed, so it may give no pool at all
  obtain ⟨creation, hc, hgives⟩ := hmay
  obtain rfl : (⟨"db", .address 0 "postgres://host/db", .ended (.error (.custom "refused"))⟩ : Creation) = creation :=
    Option.some.inj hc
  cases hgives

/-- **The pool that was long in coming replaces the one that has been served.** -/
theorem slow_lookup_unsettles :
    (after ⟨[]⟩ "db" slowAndFast).calls[1]? = some (.served (.ok "new")) ∧
    ¬ (after ⟨[]⟩ "db" slowAndFast).Settles "new" ∧
    (after ⟨[]⟩ "db" (slowAndFast ++ [.begin 0 (.ok ""), .finish 0 (.ok "old"), .resume 0, .call])).calls =
      [.served (.ok "old"), .served (.ok "new"), .served (.ok "old")] := by
  refine ⟨rfl, ?_, rfl⟩
  intro hsettles
  have hold : "old" = "new" :=
    hsettles [.begin 0 (.ok ""), .finish 0 (.ok "old"), .resume 0, .call] 2 "old" (Nat.le_refl 2) rfl
  simp at hold

end Service
end ModelStore.Datastore

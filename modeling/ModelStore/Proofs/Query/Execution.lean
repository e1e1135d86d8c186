import ModelStore.Proofs.Storage.Transcript
import ModelStore.Query.Statement
import ModelStore.Storage.Script

/-!
# What an execution asks of storage

Executing a statement may fail at every point: the pool may be missing, the connection refused, the
statement rejected, a row not castable, the lookup rejected, the connection not taken back; and any of
these may be a failure that calls the work off. `Statement.Traced` lists the conversations that are left
in spite of all that, six of them, and **`execute_traced` says that there are no others**.

Read off the list: without a text nothing is asked; on the caller's own connection the pool is never asked
for, and the connection is neither acquired nor released; on a leased one there is one acquisition, the
statement, at most one lookup, and one release, which is the last thing that is asked.

## When related records are looked up

The condition is `Populates`, and all its parts are about the answer and the statement, none about the
code. One part deserves a word. *The keys have to be comparable.* The distinct keys among the records are
found by comparing them, and a signaling not-a-number refuses to be compared with another number; records
that hold one next to a number are shaped well enough and have keys, but nothing is looked up for them
(`signaling_key_stops_lookup`).
-/

namespace ModelStore

open Dialogue

variable {α σ : Type}

/-! ## The keys among records -/

namespace Population

/-- A record that holds a key in a column. -/
def Points (column : String) (record : Record) : Prop :=
  ∃ key, record.get? (.text column) = some key ∧ key.isNull = false

/-- A record adds its key to those found so far, unless it is there already. -/
theorem withKeyOf_ne_nil {column : String} {keys found : List Value} {record : Record}
    (h : withKeyOf column keys record = .ok found) :
    found ≠ [] ↔ keys ≠ [] ∨ Points column record := by
  unfold withKeyOf at h
  cases hget : record.get? (.text column) with
  | none =>
    rw [hget] at h
    obtain rfl := Except.ok.inj h
    simp [Points, hget]
  | some key =>
    rw [hget] at h
    cases hnull : key.isNull with
    | true =>
      simp only [hnull, if_true] at h
      obtain rfl := Except.ok.inj h
      simp [Points, hget, hnull]
    | false =>
      have hpoints : Points column record := ⟨key, hget, hnull⟩
      simp only [hnull, Bool.false_eq_true, if_false, bind, Except.bind] at h
      cases hin : key.isIn keys with
      | error fault => simp [hin] at h
      | ok isIn =>
        cases isIn with
        | true =>
          have hne : keys ≠ [] := by
            rintro rfl
            simp [Value.isIn] at hin
          simp only [hin, if_true] at h
          obtain rfl := Except.ok.inj h
          simp [hne]
        | false =>
          simp only [hin, Bool.false_eq_true, if_false] at h
          obtain rfl := Except.ok.inj h
          simp [hpoints]

theorem foldlM_withKeyOf_ne_nil {column : String} {records : List Record} {keys found : List Value}
    (h : records.foldlM (withKeyOf column) keys = .ok found) :
    found ≠ [] ↔ keys ≠ [] ∨ ∃ record ∈ records, Points column record := by
  induction records generalizing keys with
  | nil =>
    obtain rfl := Except.ok.inj h
    simp
  | cons record rest ih =>
    rw [List.foldlM_cons] at h
    cases hstep : withKeyOf column keys record with
    | error fault => simp [hstep, bind, Except.bind] at h
    | ok keys' =>
      simp only [hstep, bind, Except.bind] at h
      rw [ih h, withKeyOf_ne_nil hstep]
      simp [or_assoc]

/-- The keys of records are none exactly if no record points anywhere. -/
theorem foreignKeys_ne_nil {column : String} {records : List Record} {found : List Value}
    (h : foreignKeys records column = .ok found) :
    found ≠ [] ↔ ∃ record ∈ records, Points column record := by
  have hfolded := foldlM_withKeyOf_ne_nil h
  simpa using hfolded

end Population

namespace Statement

/-! ## The condition of a lookup -/

/-- **A population is carried out**: there is a plan for one, the answer is shaped into records, the rows
can be cast, their keys can be told apart, and there is one. -/
structure Populates (s : Statement) (outcome : Outcome) (plan : Populating) (records : List Record)
    (keys : List Value) : Prop where
  planned : s.population = some plan
  shaped : s.mode ≠ .raw
  cast : (s.wanted outcome).mapM s.cast = .ok records
  comparable : Population.foreignKeys records plan.relation = .ok keys
  pointing : ∃ record ∈ records, Population.Points plan.relation record

abbrev lookedUp (s : Statement) (c : Connection) (plan : Populating) (keys : List Value)
    (reply : Except Fault Outcome) : Answered :=
  .sent c (plan.lookup (s.mode == .single) keys).1.render (plan.lookup (s.mode == .single) keys).2 reply

/-- What follows a statement that succeeded: a lookup if its population is carried out, else nothing. -/
inductive Follows (s : Statement) (c : Connection) (outcome : Outcome) : List Answered → Prop
  | nothing (h : ¬∃ plan records keys, s.Populates outcome plan records keys) : Follows s c outcome []
  | lookup {plan : Populating} {records : List Record} {keys : List Value}
      (h : s.Populates outcome plan records keys) (reply : Except Fault Outcome) :
      Follows s c outcome [s.lookedUp c plan keys reply]

/-- The statements of an execution on a connection: its own, then what follows if it succeeded. -/
inductive Sends (s : Statement) (sql : String) (now : Int) (c : Connection) : List Answered → Prop
  | failed (fault : Fault) :
      Sends s sql now c [.sent c sql (resolveTimestamps now s.arguments) (.error fault)]
  | succeeded {outcome : Outcome} {rest : List Answered} (h : s.Follows c outcome rest) :
      Sends s sql now c (.sent c sql (resolveTimestamps now s.arguments) (.ok outcome) :: rest)

/-! ## The conversations of an execution -/

/-- **Everything that executing a statement may ask, with the replies.** -/
inductive Traced (s : Statement) : List Answered → Prop
  | silent (h : s.sql = none) : Traced s []
  | timeless {sql : String} (h : s.sql = some sql) (fault : Fault) :
      Traced s [⟨.clock, .error fault⟩]
  | bound {sql : String} {c : Connection} {statements : List Answered} (h : s.sql = some sql)
      (hbound : s.connection = some c) (now : Int) (hsends : s.Sends sql now c statements) :
      Traced s (⟨.clock, .ok now⟩ :: statements)
  | poolless {sql : String} (h : s.sql = some sql) (hunbound : s.connection = none) (now : Int)
      (fault : Fault) : Traced s [⟨.clock, .ok now⟩, ⟨.pool, .error fault⟩]
  | refused {sql : String} (h : s.sql = some sql) (hunbound : s.connection = none) (now : Int)
      (fault : Fault) : Traced s [⟨.clock, .ok now⟩, ⟨.pool, .ok ()⟩, ⟨.acquire, .error fault⟩]
  | leased {sql : String} {c : Connection} {statements : List Answered} (h : s.sql = some sql)
      (hunbound : s.connection = none) (now : Int) (hsends : s.Sends sql now c statements)
      (released : Except Fault Unit) :
      Traced s (⟨.clock, .ok now⟩ :: ⟨.pool, .ok ()⟩
        :: (.acquired c :: statements ++ [.released c released]))

/-! ## From the inside out -/

theorem told_of_runs_related {plan : Populating} {c : Connection} {single : Bool} {keys : List Value}
    {told : List Answered} {o : Except Fault (List Record)} (h : Runs (plan.related c single keys) told o) :
    (keys = [] ∧ told = []) ∨ (keys ≠ [] ∧ ∃ reply,
      told = [.sent c (plan.lookup single keys).1.render (plan.lookup single keys).2 reply]) := by
  unfold Populating.related at h
  cases keys with
  | nil => exact Or.inl ⟨rfl, (runs_ok.mp h).1⟩
  | cons key rest =>
    refine Or.inr ⟨by simp, ?_⟩
    simp only [List.isEmpty_cons, Bool.false_eq_true, if_false] at h
    rcases runs_andThen.mp h with ⟨fault, hask, -⟩ | ⟨outcome, first, second, rfl, hask, hcast⟩
    · exact ⟨_, runs_request.mp hask⟩
    · obtain ⟨rfl, -⟩ := runs_done.mp hcast
      exact ⟨_, by simpa using runs_request.mp hask⟩

/-- Records are looked up for if their keys can be told apart and there is one. -/
theorem told_of_runs_populate {plan : Populating} {c : Connection} {single : Bool}
    {records : List Record} {told : List Answered} {o : Except Fault (List Record)}
    (h : Runs (plan.populate c single records) told o) :
    (told = [] ∧ ¬∃ keys, Population.foreignKeys records plan.relation = .ok keys ∧ keys ≠ []) ∨
    ∃ keys, Population.foreignKeys records plan.relation = .ok keys ∧ keys ≠ [] ∧ ∃ reply,
      told = [.sent c (plan.lookup single keys).1.render (plan.lookup single keys).2 reply] := by
  unfold Populating.populate at h
  cases hkeys : Population.foreignKeys records plan.relation with
  | error fault =>
    rw [hkeys] at h
    exact Or.inl ⟨(runs_done.mp h).1, by simp⟩
  | ok keys =>
    rw [hkeys] at h
    have hrelated : ∃ first o, told = first ∧ Runs (plan.related c single keys) first o := by
      rcases runs_andThen.mp h with ⟨fault, hdone, -⟩ | ⟨found, nothing, middle, rfl, hdone, hrest⟩
      · exact absurd (runs_done.mp hdone).2 (by simp)
      · obtain ⟨rfl, hfound⟩ := runs_done.mp hdone
        obtain rfl := Except.ok.inj hfound
        rcases runs_andThen.mp hrest with ⟨fault, hrel, -⟩ | ⟨related, first, second, rfl, hrel, hmerge⟩
        · exact ⟨middle, _, rfl, hrel⟩
        · obtain ⟨rfl, -⟩ := runs_done.mp hmerge
          exact ⟨first, _, by simp, hrel⟩
    obtain ⟨first, o', rfl, hrel⟩ := hrelated
    rcases told_of_runs_related hrel with ⟨rfl, rfl⟩ | ⟨hne, reply, rfl⟩
    · exact Or.inl ⟨rfl, by simp⟩
    · exact Or.inr ⟨keys, rfl, hne, reply, rfl⟩

theorem follows_of_runs_records {s : Statement} {c : Connection} {outcome : Outcome}
    {told : List Answered} {o : Except Fault (List Record)} (hmode : s.mode ≠ .raw)
    (h : Runs ((done ((s.wanted outcome).mapM s.cast)).andThen (s.populated c (s.mode == .single)))
      told o) : s.Follows c outcome told := by
  cases hcast : (s.wanted outcome).mapM s.cast with
  | error fault =>
    rw [hcast] at h
    obtain ⟨rfl, -⟩ := runs_done.mp h
    refine .nothing ?_
    rintro ⟨plan, records, keys, hp⟩
    exact absurd (hcast.symm.trans hp.cast) (by simp)
  | ok records =>
    rw [hcast] at h
    -- whatever records a population is carried out for, they are these
    have hrecords : ∀ {plan records' keys}, s.Populates outcome plan records' keys → records' = records :=
      fun hp => (Except.ok.inj (hcast.symm.trans hp.cast)).symm
    have hpop : Runs (s.populated c (s.mode == .single) records) told o := h
    unfold populated at hpop
    cases hplan : s.population with
    | none =>
      rw [hplan] at hpop
      obtain ⟨rfl, -⟩ := runs_ok.mp hpop
      refine .nothing ?_
      rintro ⟨plan, records', keys, hp⟩
      exact absurd (hplan.symm.trans hp.planned) (by simp)
    | some plan =>
      rw [hplan] at hpop
      have hsame : ∀ {plan' records' keys}, s.Populates outcome plan' records' keys → plan' = plan :=
        fun hp => (Option.some.inj (hplan.symm.trans hp.planned)).symm
      by_cases hempty : records.isEmpty = true
      · simp only [hempty, if_true] at hpop
        obtain ⟨rfl, -⟩ := runs_ok.mp hpop
        refine .nothing ?_
        rintro ⟨plan', records', keys, hp⟩
        obtain ⟨record, hmem, -⟩ := hp.pointing
        obtain rfl := hrecords hp
        rw [List.isEmpty_iff.mp hempty] at hmem
        exact absurd hmem (by simp)
      · simp only [hempty, Bool.false_eq_true, if_false] at hpop
        rcases told_of_runs_populate hpop with ⟨rfl, hnone⟩ | ⟨keys, hkeys, hne, reply, rfl⟩
        · refine .nothing ?_
          rintro ⟨plan', records', keys, hp⟩
          obtain rfl := hrecords hp
          obtain rfl := hsame hp
          exact hnone ⟨keys, hp.comparable, (Population.foreignKeys_ne_nil hp.comparable).mpr hp.pointing⟩
        · exact .lookup ⟨hplan, hmode, hcast, hkeys, (Population.foreignKeys_ne_nil hkeys).mp hne⟩ reply

theorem follows_of_runs_shape {s : Statement} {c : Connection} {outcome : Outcome}
    {told : List Answered} {o : Except Fault Answer} (h : Runs (s.shape c outcome) told o) :
    s.Follows c outcome told := by
  -- an answer is made of the records without asking anything further
  have hshaped : ∀ make : List Record → Answer, s.mode ≠ .raw →
      Runs (((done ((s.wanted outcome).mapM s.cast)).andThen (s.populated c (s.mode == .single))).andThen
        fun rs => Dialogue.ok (make rs)) told o → s.Follows c outcome told := by
    intro make hmode hruns
    rcases runs_andThen.mp hruns with ⟨fault, hrecords, -⟩ | ⟨rs, first, second, rfl, hrecords, hmake⟩
    · exact follows_of_runs_records hmode hrecords
    · obtain ⟨rfl, -⟩ := runs_ok.mp hmake
      simpa using follows_of_runs_records hmode hrecords
  unfold shape at h
  cases hmode : s.mode with
  | raw =>
    simp only [hmode] at h
    obtain ⟨rfl, -⟩ := runs_ok.mp h
    exact .nothing fun ⟨_, _, _, hp⟩ => hp.shaped hmode
  | single =>
    refine hshaped (fun rs => .record rs.head?) (by simp [hmode]) ?_
    simpa only [hmode] using h
  | rows =>
    refine hshaped (fun rs => .records rs) (by simp [hmode]) ?_
    simpa only [hmode] using h

/-- What is done on a connection, whoever it belongs to. -/
theorem sends_of_runs {s : Statement} {sql : String} {now : Int} {c : Connection} {told : List Answered}
    {o : Except Fault Answer}
    (h : Runs ((request (.execute c sql (resolveTimestamps now s.arguments))).andThen
      fun (outcome : Outcome) => s.shape c outcome) told o) : s.Sends sql now c told := by
  rcases runs_andThen.mp h with ⟨fault, hask, -⟩ | ⟨outcome, first, second, rfl, hask, hshape⟩
  · rw [runs_request.mp hask]
    exact .failed fault
  · rw [runs_request.mp hask]
    exact .succeeded (follows_of_runs_shape hshape)

/-- Every run of an execution is one of the six. -/
theorem traced_of_runs {s : Statement} {told : List Answered} {o : Except Fault Answer}
    (h : Runs s.execute told o) : s.Traced told := by
  unfold execute at h
  cases hsql : s.sql with
  | none =>
    simp only [hsql] at h
    obtain ⟨rfl, -⟩ := runs_ok.mp h
    exact .silent hsql
  | some sql =>
    simp only [hsql] at h
    rcases runs_andThen.mp h with ⟨fault, hclock, -⟩ | ⟨now, first, second, rfl, hclock, hrest⟩
    · rw [runs_request.mp hclock]
      exact .timeless hsql fault
    · rw [runs_request.mp hclock]
      obtain ⟨middle, outcome, last, rfl, hon, htranslate⟩ := runs_afterwards.mp hrest
      -- translating the failure asks nothing
      obtain rfl : last = [] := by
        cases outcome with
        | ok answer => exact (runs_ok.mp htranslate).1
        | error fault => exact (runs_fail.mp htranslate).1
      rw [List.append_nil, List.singleton_append]
      unfold onConnection at hon
      cases hc : s.connection with
      | some c =>
        simp only [hc] at hon
        exact .bound hsql hc now (sends_of_runs hon)
      | none =>
        simp only [hc] at hon
        rcases runs_andThen.mp hon with ⟨fault, hpool, -⟩ | ⟨_, first, second, rfl, hpool, hleased⟩
        · rw [runs_request.mp hpool]
          exact .poolless hsql hc now fault
        · rw [runs_request.mp hpool]
          rcases runs_leased.mp hleased with ⟨fault, rfl, -⟩ | ⟨c, told, o, released, rfl, hbody, -⟩
          · exact .refused hsql hc now fault
          · exact .leased hsql hc now (sends_of_runs hbody) released

theorem isStatement_of_sends {s : Statement} {sql : String} {now : Int} {c : Connection}
    {statements : List Answered} (h : s.Sends sql now c statements) :
    statements.filter Answered.isStatement = statements := by
  refine List.filter_eq_self.mpr ?_
  cases h with
  | failed fault => simp [Answered.isStatement]
  | succeeded hfollows =>
    cases hfollows with
    | nothing _ => simp [Answered.isStatement]
    | lookup _ reply => simp [Answered.isStatement, Statement.lookedUp]

/-- The statements of an execution: none, or its own and what follows it. -/
theorem statements_of_traced {s : Statement} {told : List Answered} (h : s.Traced told) :
    told.filter Answered.isStatement = [] ∨
      ∃ sql now c, s.sql = some sql ∧ s.Sends sql now c (told.filter Answered.isStatement) := by
  cases h with
  | silent _ => exact .inl rfl
  | timeless _ fault => exact .inl rfl
  | poolless _ _ now fault => exact .inl rfl
  | refused _ _ now fault => exact .inl rfl
  | @bound sql c statements hsql _ now hsends =>
    refine .inr ⟨sql, now, c, hsql, ?_⟩
    simpa [Answered.isStatement, isStatement_of_sends hsends] using hsends
  | @leased sql c statements hsql _ now hsends released =>
    refine .inr ⟨sql, now, c, hsql, ?_⟩
    simpa [Answered.isStatement, Answered.acquired, isStatement_of_sends hsends] using hsends

/-- **What executing a statement asks of storage, whatever storage replies**: one of the conversations of
`Traced`; and what storage sees of it is what it sees of these requests. -/
theorem execute_traced (s : Statement) (storage : Storage σ) (st : σ) :
    s.Traced (s.execute.transcript storage st) ∧
    (s.execute.run storage st).exchanges
      = (s.execute.transcript storage st).flatMap Answered.exchanges :=
  ⟨traced_of_runs (runs_transcript storage s.execute st), run_exchanges storage s.execute st⟩

/-! ## Keys that cannot be told apart

The condition `Populates.comparable` is not idle: here are rows that are cast and shaped, a relation with
a plan and two keys in it, and no lookup. -/

/-- Rows with a signaling not-a-number and a number in the column of a relation. -/
def unequalled : Outcome :=
  ⟨[[(.text "author", .decimal (.nan false true 0))], [(.text "author", .int 1)]], 2⟩

def populating : Statement where
  sql := some "SELECT * FROM \"post\""
  arguments := []
  model := none
  mode := .rows
  single := false
  population := some ⟨"author", ⟨"User", [], false⟩, [.name "user"]⟩
  interceptors := []
  connection := none

/-- A storage that answers with the rows, and refuses nothing. -/
def answering : Script where
  responses := [.ok unequalled]
  failures := []
  acquireFaults := []
  releaseFaults := []
  pool := .ok ()
  clock := 1000
  connections := []

/-- **A signaling not-a-number among the keys stops the lookup**, although the statement succeeded, its
rows are cast, and they point to records. -/
theorem signaling_key_stops_lookup :
    populating.mode = .rows ∧ populating.population.map (·.relation) = some "author"
    ∧ (populating.wanted unequalled).mapM populating.cast = .ok unequalled.rows
    ∧ (∃ record ∈ unequalled.rows, Population.Points "author" record)
    ∧ populating.execute.transcript Script.storage answering
      = [⟨.clock, .ok 1000⟩, ⟨.pool, .ok ()⟩, .acquired "c0",
        .sent "c0" "SELECT * FROM \"post\"" [] (.ok unequalled), .released "c0" (.ok ())] := by
  refine ⟨rfl, rfl, rfl, ⟨_, List.mem_cons_self, _, rfl, rfl⟩, ?_⟩
  rfl

end Statement
end ModelStore

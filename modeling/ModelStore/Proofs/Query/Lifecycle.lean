import Mathlib.Data.List.Induction
import ModelStore.Proofs.Query.Execution
import ModelStore.Query.Running
import ModelStore.Sorting.Merge

/-!
# The life of a query

Any number of tasks may have their hands on one query: they modify it, build its statement, run it, and while
a run waits for storage the others go on. What happens to the query is a list of *acts* in any order whatever:
a call by one of the tasks, or a reply of storage to a run that waits for one. A reply may be anything, refusals
and cancellations included. `Life.after` is what has become of the query after some acts.

The acts are the moments between which nothing else can happen. A call of `execute` that may run the query
takes its statement and marks it as executing in one act; and the reply that ends a run settles the query in
the same act, whatever it was. A run that never has to wait is started and ended by one act.

**A query runs once** (`Life.runs_once`). Nothing in `Life` says so in advance: it keeps a list of runs, and
every call that `Query.begin` lets through adds one.
-/

namespace ModelStore

def Stage.rank : Stage → Nat
  | building => 0
  | executing => 1
  | settled => 2

namespace Query

/-! ## Modifiers -/

/-- What a modifier that is accepted makes of a query: it sets one thing, and leaves the rest alone. -/
inductive Modifier.Makes (registry : Option Registry) (q : Query) : Modifier → Query → Prop
  | fetch : Makes registry q .fetch { q with fetching := true }
  | limit {v : Value} {limit : Nat} (h : parseLimit v = .ok limit) :
    Makes registry q (.limit v) { q with limit := some limit }
  | sort {v : Value} {order : Order} (h : Order.parse v = .ok order) :
    Makes registry q (.sort v) { q with order := some order }
  | populate {name : Value} {plan : Populating} (h : q.plan registry name = .ok plan) :
    Makes registry q (.populate name) { q with population := some plan }
  | connection (c : Option Connection) : Makes registry q (.connection c) { q with connection := c }
  | intercept {kind : Value} {offer : Offer} {handler : Handler} (h : offer.check = .ok handler) :
    Makes registry q (.intercept kind offer)
      { q with interceptors := intercepting q.interceptors handler (Violation.codesOf kind) }

theorem makes_of_apply {registry : Option Registry} {m : Modifier} {q q' : Query} (h : m.apply registry q = .ok q') :
    m.Makes registry q q' := by
  cases m with
  | fetch =>
    obtain rfl := Except.ok.inj h
    exact .fetch
  | limit v =>
    obtain ⟨limit, hlimit, h⟩ := Sorting.exists_of_bind_eq_ok h
    obtain rfl := Except.ok.inj h
    exact .limit hlimit
  | sort v =>
    obtain ⟨order, horder, h⟩ := Sorting.exists_of_bind_eq_ok h
    obtain rfl := Except.ok.inj h
    exact .sort horder
  | populate name =>
    obtain ⟨plan, hplan, h⟩ := Sorting.exists_of_bind_eq_ok h
    obtain rfl := Except.ok.inj h
    exact .populate hplan
  | connection c =>
    obtain rfl := Except.ok.inj h
    exact .connection c
  | intercept kind offer =>
    obtain ⟨handler, hhandler, h⟩ := Sorting.exists_of_bind_eq_ok h
    obtain rfl := Except.ok.inj h
    exact .intercept hhandler

/-! ## Lives -/

/-- A run of a query: its statement, what it has asked for with the replies it got, and where it is now. -/
structure Execution where
  statement : Statement
  told : List Answered
  now : Dialogue Answer

namespace Execution

def ended (e : Execution) : Bool :=
  match e.now with
  | .done _ => true
  | .ask .. => false

/-- The run with a reply to what it asks for. -/
def replied (e : Execution) (reply : (q : Request) → Except Fault q.Reply) : Execution :=
  match e.now with
  | .done _ => e
  | .ask q next => ⟨e.statement, e.told ++ [⟨q, reply q⟩], next (reply q)⟩

/-- The query once the run has come this far. -/
def leaves (e : Execution) (q : Query) : Query := if e.ended then q.settle else q

/-- The stage of a query of which this is the run. -/
def stage (e : Execution) : Stage := if e.ended then .settled else .executing

end Execution

/-- What a call gives: nothing but the query itself, a statement, a run, or a fault that it raises. -/
inductive Result
  | accepted
  | built (statement : Statement)
  | started (statement : Statement)
  | raised (fault : Fault)

inductive Act
  | modify (m : Modifier)
  | build
  | execute
  | reply (execution : Nat) (reply : (q : Request) → Except Fault q.Reply)

structure Life where
  query : Query
  executions : List Execution
  results : List Result

namespace Life

def giving (life : Life) (result : Result) : Life := { life with results := life.results ++ [result] }

def act (registry : Option Registry) (life : Life) : Act → Life
  | .modify m => match life.query.modify registry m with
    | .ok q => { life with query := q }.giving .accepted
    | .error fault => life.giving (.raised fault)
  | .build => life.giving (.built life.query.build)
  | .execute => match life.query.begin with
    | .ok (statement, running) =>
      let e : Execution := ⟨statement, [], statement.execute⟩
      { life with query := e.leaves running, executions := life.executions ++ [e] }.giving (.started statement)
    | .error fault => life.giving (.raised fault)
  | .reply i reply => match life.executions[i]? with
    | some e =>
      let e := e.replied reply
      { life with query := e.leaves life.query, executions := life.executions.set i e }
    | none => life

/-- What has become of a query after some acts. -/
def after (registry : Option Registry) (q : Query) (acts : List Act) : Life :=
  acts.foldl (act registry) ⟨q, [], []⟩

variable {registry : Option Registry} {q : Query} {life : Life}

theorem after_append (acts more : List Act) :
    after registry q (acts ++ more) = more.foldl (act registry) (after registry q acts) :=
  List.foldl_append

theorem after_concat (acts : List Act) (a : Act) :
    after registry q (acts ++ [a]) = (after registry q acts).act registry a := by
  rw [after_append, List.foldl_cons, List.foldl_nil]

/-! ## One act -/

theorem stage_of_apply {m : Modifier} {q q' : Query} (h : m.apply registry q = .ok q') :
    q'.stage = q.stage := by
  cases makes_of_apply h <;> rfl

/-- A modifier is accepted only while the query is put together, and leaves it at that. -/
theorem stage_of_modify {m : Modifier} {q q' : Query} (h : q.modify registry m = .ok q') :
    q.stage = .building ∧ q'.stage = .building := by
  by_cases hstage : q.stage = .building
  · have happly : m.apply registry q = .ok q' := by
      simpa [modify, requireBuilding, hstage, bind, Except.bind] using h
    exact ⟨hstage, (stage_of_apply happly).trans hstage⟩
  · rw [modify_of_started hstage] at h
    exact absurd h (by simp)

theorem begin_of_building (h : q.stage = .building) :
    q.begin = .ok (q.build, { q with stage := .executing }) := by
  simp [begin, requireBuilding, h, bind, Except.bind]

theorem stage_leaves_executing (e : Execution) {q : Query} (h : q.stage = .executing) :
    (e.leaves q).stage = e.stage := by
  unfold Execution.leaves Execution.stage
  split
  · rfl
  · exact h

theorem rank_le_leaves (e : Execution) (q : Query) : q.stage.rank ≤ (e.leaves q).stage.rank := by
  unfold Execution.leaves
  split
  · show q.stage.rank ≤ 2
    cases q.stage <;> decide
  · exact Nat.le_refl _

/-- **No act moves a query back.** -/
theorem rank_le_act (life : Life) (a : Act) :
    life.query.stage.rank ≤ (life.act registry a).query.stage.rank := by
  cases a with
  | modify m =>
    cases hmodify : life.query.modify registry m with
    | error fault => simp [act, hmodify, giving]
    | ok q =>
      obtain ⟨hbefore, hafter⟩ := stage_of_modify hmodify
      simp [act, hmodify, giving, hbefore, hafter]
  | build => exact Nat.le_refl _
  | execute =>
    by_cases hstage : life.query.stage = .building
    · rw [hstage]
      exact Nat.zero_le _
    · simp [act, begin_of_started hstage, giving]
  | reply i reply =>
    cases he : life.executions[i]? with
    | none => simp [act, he]
    | some e =>
      simp only [act, he]
      exact rank_le_leaves _ _

theorem rank_le_acts (life : Life) (acts : List Act) :
    life.query.stage.rank ≤ (acts.foldl (act registry) life).query.stage.rank := by
  induction acts generalizing life with
  | nil => exact Nat.le_refl _
  | cons a acts ih => exact Nat.le_trans (rank_le_act life a) (ih _)

/-! ## Before the run -/

/-- Nobody has run the query. -/
structure Unstarted (life : Life) : Prop where
  none : life.executions = []
  building : life.query.stage = .building

theorem Unstarted.act (h : Unstarted life) {a : Act} (ha : a ≠ .execute) :
    Unstarted (life.act registry a) := by
  cases a with
  | modify m =>
    cases hmodify : life.query.modify registry m with
    | error fault =>
      simp only [Life.act, hmodify]
      exact ⟨h.none, h.building⟩
    | ok q =>
      simp only [Life.act, hmodify]
      exact ⟨h.none, (stage_of_modify hmodify).2⟩
  | build => exact ⟨h.none, h.building⟩
  | execute => exact absurd rfl ha
  | reply i reply =>
    -- there is no run that could be replied to
    have hnone : life.executions[i]? = .none := by simp [h.none]
    simp only [Life.act, hnone]
    exact h

theorem unstarted_after (hnew : q.stage = .building) {acts : List Act} (h : .execute ∉ acts) :
    Unstarted (after registry q acts) := by
  induction acts using List.reverseRecOn with
  | nil => exact ⟨rfl, hnew⟩
  | append_singleton acts a ih =>
    rw [after_concat]
    refine (ih fun hmem => h (List.mem_append_left _ hmem)).act ?_
    rintro rfl
    exact h (by simp)

/-! ## From the run on -/

/-- **The query has run, or is running, the given statement**, once, and the run has gone its way. -/
structure Started (statement : Statement) (e : Execution) (life : Life) : Prop where
  only : life.executions = [e]
  ours : e.statement = statement
  way : Dialogue.Leads statement.execute e.told e.now
  stage : life.query.stage = e.stage

theorem Started.not_building {statement : Statement} {e : Execution} (h : Started statement e life) :
    life.query.stage ≠ .building := by
  rw [h.stage, Execution.stage]
  split <;> simp

theorem Unstarted.started (h : Unstarted life) :
    ∃ e, Started life.query.build e (life.act registry .execute) := by
  refine ⟨⟨life.query.build, [], life.query.build.execute⟩, ?_⟩
  simp only [Life.act, begin_of_building h.building]
  refine ⟨?_, rfl, .here _, ?_⟩
  · simp [giving, h.none]
  · exact stage_leaves_executing _ rfl

theorem Started.reply {statement : Statement} {e : Execution} (h : Started statement e life)
    (reply : (q : Request) → Except Fault q.Reply) :
    Started statement (e.replied reply) (life.act registry (.reply 0 reply)) := by
  have hfirst : life.executions[0]? = some e := by simp [h.only]
  simp only [Life.act, hfirst]
  obtain ⟨own, told, now⟩ := e
  cases now with
  | done outcome =>
    -- a run that has ended is not moved, and the query stays settled
    exact ⟨by simp [h.only, Execution.replied], h.ours, h.way, rfl⟩
  | ask q next =>
    refine ⟨by simp [h.only, Execution.replied], h.ours, h.way.further (reply q), ?_⟩
    exact stage_leaves_executing _ h.stage

/-- Once a query has started, calls that would change or run it are refused and do nothing. -/
theorem Started.refuses {statement : Statement} {e : Execution} (h : Started statement e life) {a : Act}
    (ha : a = .execute ∨ ∃ m, a = .modify m) :
    life.act registry a = life.giving (.raised (.refused (.spent life.query.stage))) := by
  rcases ha with rfl | ⟨m, rfl⟩
  · simp only [Life.act, begin_of_started h.not_building]
  · simp only [Life.act, modify_of_started h.not_building]

theorem Started.giving {statement : Statement} {e : Execution} (h : Started statement e life)
    (result : Result) : Started statement e (life.giving result) := ⟨h.only, h.ours, h.way, h.stage⟩

theorem Started.act {statement : Statement} {e : Execution} (h : Started statement e life) (a : Act) :
    ∃ e', Started statement e' (life.act registry a) := by
  cases a with
  | modify m => exact ⟨e, h.refuses (.inr ⟨m, rfl⟩) ▸ h.giving _⟩
  | build => exact ⟨e, h.giving _⟩
  | execute => exact ⟨e, h.refuses (.inl rfl) ▸ h.giving _⟩
  | reply i reply =>
    cases i with
    | zero => exact ⟨_, h.reply reply⟩
    | succ i =>
      have hnone : life.executions[i + 1]? = none := by simp [h.only]
      refine ⟨e, ?_⟩
      simp only [Life.act, hnone]
      exact h

theorem Started.acts {statement : Statement} {e : Execution} (h : Started statement e life)
    (acts : List Act) : ∃ e', Started statement e' (acts.foldl (Life.act registry) life) := by
  induction acts generalizing life e with
  | nil => exact ⟨e, h⟩
  | cons a acts ih =>
    obtain ⟨e', h'⟩ := h.act a
    exact ih h'

/-- **The first call of `execute` runs the query**, with the statement that it then has. -/
theorem started_after (hnew : q.stage = .building) {acts : List Act} (h : .execute ∈ acts) :
    ∃ before rest e, acts = before ++ .execute :: rest ∧ .execute ∉ before ∧
      Started (after registry q before).query.build e (after registry q acts) := by
  obtain ⟨before, rest, rfl, hfirst⟩ := List.eq_append_cons_of_mem h
  have hunstarted : Unstarted (after registry q before) := unstarted_after hnew hfirst
  obtain ⟨e, hstarted⟩ :
      ∃ e, Started (after registry q before).query.build e ((after registry q before).act registry .execute) :=
    hunstarted.started
  obtain ⟨e', hstarted'⟩ := hstarted.acts rest
  refine ⟨before, rest, e', rfl, hfirst, ?_⟩
  rw [after_append, List.foldl_cons]
  exact hstarted'

/-! ## What is sent -/

/-- **What has been sent so far is the beginning of what one execution sends.** -/
theorem Started.sends {statement : Statement} {e : Execution} (h : Started statement e life) :
    ∃ statements, e.told.filter Answered.isStatement <+: statements ∧
      (statements = [] ∨ ∃ sql now c, statement.sql = some sql ∧ statement.Sends sql now c statements) := by
  obtain ⟨rest, outcome, hruns, -, -⟩ := h.way.finish
  refine ⟨(e.told ++ rest).filter Answered.isStatement, ?_,
    Statement.statements_of_traced (Statement.traced_of_runs hruns)⟩
  rw [List.filter_append]
  exact List.prefix_append _ _

/-! ## Undisturbed runs

A query that one task runs by itself (`Query.run`) leads one of these lives, too. -/

section Undisturbed

variable {σ : Type}

/-- The replies of a storage that nobody else asks for anything. -/
def replies (storage : Dialogue.Storage σ) : Dialogue Answer → σ → List Act
  | .done _, _ => []
  | .ask q next, s =>
    let (reply, s') := storage.answer q s
    .reply 0 (fun q => (storage.answer q s).1) :: replies storage (next reply) s'

theorem acts_replies (storage : Dialogue.Storage σ) (statement : Statement) (results : List Result)
    (d : Dialogue Answer) (told : List Answered) (s : σ) :
    (replies storage d s).foldl (act registry)
        ⟨(⟨statement, told, d⟩ : Execution).leaves q, [⟨statement, told, d⟩], results⟩ =
      ⟨q.settle, [⟨statement, told ++ d.transcript storage s, .done (d.run storage s).outcome⟩], results⟩ := by
  induction d generalizing told s with
  | done outcome => simp [replies, Dialogue.transcript, Dialogue.run, Execution.leaves, Execution.ended]
  | ask request next ih =>
    have hact : act registry
        ⟨(⟨statement, told, .ask request next⟩ : Execution).leaves q, [⟨statement, told, .ask request next⟩],
          results⟩ (.reply 0 fun q => (storage.answer q s).1) =
        ⟨(⟨statement, told ++ [⟨request, (storage.answer request s).1⟩], next (storage.answer request s).1⟩ :
            Execution).leaves q,
          [⟨statement, told ++ [⟨request, (storage.answer request s).1⟩], next (storage.answer request s).1⟩],
          results⟩ := rfl
    rw [replies, List.foldl_cons, hact, ih, List.append_assoc]
    rfl

theorem after_run (storage : Dialogue.Storage σ) (s : σ) {run : Dialogue.Run σ Answer} {q' : Query}
    (h : q.run storage s = .ok (q', run)) :
    after registry q (.execute :: replies storage q.build.execute s) =
      ⟨q', [⟨q.build, q.build.execute.transcript storage s, .done run.outcome⟩], [.started q.build]⟩ := by
  by_cases hstage : q.stage = .building
  · have hbegin := begin_of_building hstage
    simp only [Query.run, hbegin, bind, Except.bind, Except.ok.injEq, Prod.mk.injEq] at h
    obtain ⟨rfl, rfl⟩ := h
    have hreplies := @acts_replies registry { q with stage := .executing } σ storage
      q.build [.started q.build] q.build.execute [] s
    simpa [after, act, hbegin, giving] using hreplies
  · simp [Query.run, begin_of_started hstage, bind, Except.bind] at h

end Undisturbed

/-! ## The theorem -/

/-- **A query runs once.** Its stage only moves forward. Until somebody calls `execute` it has no run; the
first such call starts one, with the statement that the query then has, and there is never another. What that
run sends is what one execution of the statement sends, as far as it has come; the query is settled exactly
when it has ended; and every call from then on that would run or change the query is refused, and leaves the
query and the run as they are. -/
theorem runs_once (registry : Option Registry) {q : Query} (hnew : q.stage = .building) (acts : List Act) :
    (∀ more, (after registry q acts).query.stage.rank
      ≤ (after registry q (acts ++ more)).query.stage.rank) ∧
    (.execute ∉ acts → (after registry q acts).executions = [] ∧
      (after registry q acts).query.stage = .building) ∧
    (.execute ∈ acts → ∃ before rest e, acts = before ++ .execute :: rest ∧ .execute ∉ before ∧
      (after registry q acts).executions = [e] ∧
      e.statement = (after registry q before).query.build ∧
      Dialogue.Leads e.statement.execute e.told e.now ∧
      (∃ statements, e.told.filter Answered.isStatement <+: statements ∧ (statements = [] ∨
        ∃ sql now c, e.statement.sql = some sql ∧ e.statement.Sends sql now c statements)) ∧
      (after registry q acts).query.stage = (if e.ended then .settled else .executing) ∧
      ∀ a, (a = .execute ∨ ∃ m, a = .modify m) → after registry q (acts ++ [a]) =
        (after registry q acts).giving
          (.raised (.refused (.spent (after registry q acts).query.stage)))) := by
  refine ⟨?_, ?_, ?_⟩
  · intro more
    rw [after_append]
    exact rank_le_acts _ more
  · intro hnone
    have h : Unstarted (after registry q acts) := unstarted_after hnew hnone
    exact ⟨h.none, h.building⟩
  · intro hexecute
    obtain ⟨before, rest, e, hacts, hfirst, h⟩ := @started_after registry q hnew acts hexecute
    refine ⟨before, rest, e, hacts, hfirst, h.only, h.ours, ?_, ?_, h.stage, ?_⟩
    · rw [h.ours]
      exact h.way
    · rw [h.ours]
      exact h.sends
    · intro a ha
      rw [after_concat]
      exact h.refuses ha

/-- A query that two tasks run. -/
def contended : Query := .plain none (some [.verbatim "SELECT now()"]) [] .raw .rows

/-- The second run and a modifier are refused; then the first run, which has read the clock, is called off
while it waits for the pool. -/
def contention : List Act :=
  [.modify (.limit (.int 1)), .execute, .execute, .reply 0 fun | .clock => .ok 1000 | _ => .error .abandoned,
    .modify .fetch, .reply 0 fun _ => .error .abandoned]

theorem runs_once_of_contention :
    contended.stage = .building ∧ ∃ e, (after (some ⟨[]⟩) contended contention).executions = [e] ∧
      e.statement = { contended with limit := some 1 }.build ∧
      e.now = .done (.error .abandoned) ∧ (after (some ⟨[]⟩) contended contention).query.stage = .settled := by
  refine ⟨rfl, ?_⟩
  obtain ⟨before, rest, e, hacts, hfirst, honly, hours, -, -, hstage, -⟩ :=
    (@runs_once (some ⟨[]⟩) contended rfl contention).2.2 (by simp [contention])
  have hend : (after (some ⟨[]⟩) contended contention).executions.map (·.now) = [.done (.error .abandoned)] := rfl
  have hnow : e.now = .done (.error .abandoned) := by simpa [honly] using hend
  refine ⟨e, honly, ?_, hnow, ?_⟩
  · -- the run was started by the second act
    obtain rfl : before = [.modify (.limit (.int 1))] := by
      rcases before with _ | ⟨first, _ | ⟨second, before⟩⟩
      · exact absurd (List.cons.inj hacts).1 (by simp)
      · exact congrArg ([·]) (List.cons.inj hacts).1.symm
      · obtain rfl := (List.cons.inj (List.cons.inj hacts).2).1
        simp at hfirst
    exact hours
  · rw [hstage]
    simp [Execution.ended, hnow]

end Life
end Query
end ModelStore

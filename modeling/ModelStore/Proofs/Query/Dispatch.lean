import ModelStore.Proofs.Query.Binding
import ModelStore.Proofs.Query.Lifecycle
import ModelStore.Proofs.Record.Casting

/-!
# The time that a dispatch sends

A statement is dispatched by the query that it was built of, which is done once, or from where it was saved, which may
be done any number of times. Each dispatch reads the clock for itself, before it does anything else, and what it then
sends is the statement's arguments with that reading in the place of every pending time.

Nothing has to be assumed of the order in which things are done. A `Desk` has one query on it, of which statements are
built and saved while it is put together and run; any number of runs of saved statements are under way besides, and
all of them take turns. What is shown of a dispatch is shown of it wherever it has come to.
-/

namespace ModelStore

open Sorting (exists_of_bind_eq_ok)

/-! ## What comes back

The keys that a population looks up come from storage. A record has a pending time in it only if its row had. -/

def Record.Unmarked (record : Record) : Prop := ∀ entry ∈ record, Value.Unmarked entry.2

namespace Value

theorem Unmarked.toNumber {v w : Value} (hv : v.Unmarked) (h : v.toNumber = .ok w) : w.Unmarked := by
  rcases toNumber_cases h with ⟨n, rfl⟩ | ⟨x, rfl⟩ | rfl
  · trivial
  · trivial
  · exact hv

end Value

theorem Record.Unmarked.castTime {record record' : Record} {column : String} (hrecord : record.Unmarked)
    (h : record.castTime column = .ok record') : record'.Unmarked := by
  rcases Record.castTime_cases h with rfl | ⟨v, w, hget, -, hw, rfl⟩
  · exact hrecord
  · obtain ⟨entry, hfind, rfl⟩ := Option.map_eq_some_iff.mp hget
    exact Record.forall_put hrecord _ ((hrecord entry (List.mem_of_find?_eq_some hfind)).toNumber hw)

theorem Record.Unmarked.castTimes {columns : List String} {record record' : Record} (hrecord : record.Unmarked)
    (h : columns.foldlM Record.castTime record = .ok record') : record'.Unmarked := by
  apply Record.castTimes_keep h hrecord
  intro column _ first second hstep hfirst
  exact hfirst.castTime hstep

theorem Model.unmarked_castRecord {model : Model} {row record : Record} (hrow : row.Unmarked)
    (h : model.castRecord row = .ok record) : record.Unmarked := by
  obtain ⟨timed, htimed, h⟩ := exists_of_bind_eq_ok h
  obtain rfl := Except.ok.inj h
  intro entry hmem
  obtain ⟨entry, hentry, rfl⟩ := List.mem_map.mp hmem
  unfold Model.zeroFill
  split
  case h_1 a _ _ =>
    cases hzero : a.zero? with
    | none => trivial
    | some zero => exact Attribute.unmarked_zero? hzero
  case h_2 => exact hrow.castTimes htimed entry hentry

theorem Statement.unmarked_cast {s : Statement} {row record : Record} (hrow : row.Unmarked)
    (h : s.cast row = .ok record) : record.Unmarked := by
  unfold Statement.cast at h
  split at h
  · exact Model.unmarked_castRecord hrow h
  · obtain rfl := Except.ok.inj h
    exact hrow

namespace Population

theorem mem_withKeyOf {column : String} {keys found : List Value} {record : Record}
    (h : withKeyOf column keys record = .ok found) {key : Value} (hkey : key ∈ found) :
    key ∈ keys ∨ record.get? (.text column) = some key := by
  unfold withKeyOf at h
  split at h
  case h_1 =>
    obtain rfl := Except.ok.inj h
    exact .inl hkey
  case h_2 own hget =>
    split at h
    · obtain rfl := Except.ok.inj h
      exact .inl hkey
    · obtain ⟨isIn, -, h⟩ := exists_of_bind_eq_ok h
      split at h
      · obtain rfl := Except.ok.inj h
        exact .inl hkey
      · obtain rfl := Except.ok.inj h
        rcases List.mem_append.mp hkey with hold | hnew
        · exact .inl hold
        · exact .inr ((List.mem_singleton.mp hnew) ▸ hget)

theorem unmarked_foreignKeys {column : String} {records : List Record} {found : List Value}
    (hrecords : ∀ record ∈ records, record.Unmarked) (h : foreignKeys records column = .ok found) :
    ∀ key ∈ found, key.Unmarked := by
  have hfold : ∀ {keys : List Value}, (∀ key ∈ keys, key.Unmarked) →
      records.foldlM (withKeyOf column) keys = .ok found → ∀ key ∈ found, key.Unmarked := by
    clear h
    induction records with
    | nil =>
      intro keys hkeys h
      obtain rfl := Except.ok.inj h
      exact hkeys
    | cons record rest ih =>
      intro keys hkeys h
      obtain ⟨middle, hmiddle, h⟩ := exists_of_bind_eq_ok h
      apply ih (fun other hmem => hrecords other (List.mem_cons_of_mem _ hmem)) ?_ h
      intro key hkey
      rcases mem_withKeyOf hmiddle hkey with hold | hnew
      · exact hkeys key hold
      · obtain ⟨entry, hfind, rfl⟩ := Option.map_eq_some_iff.mp hnew
        exact hrecords record List.mem_cons_self entry (List.mem_of_find?_eq_some hfind)
  exact hfold (List.forall_mem_nil _) h

end Population

theorem Populating.unmarked_lookup {plan : Populating} {single : Bool} {keys : List Value}
    (h : ∀ key ∈ keys, key.Unmarked) : ∀ v ∈ (plan.lookup single keys).2, v.Unmarked := by
  unfold Populating.lookup
  intro v hmem
  cases single with
  | true => exact h v (List.mem_of_mem_take hmem)
  | false =>
    obtain rfl := List.mem_singleton.mp hmem
    exact (Value.unmarkedItems_iff keys).mpr h

/-! ## What a dispatch sends -/

/-- What is sent in the place of an argument. -/
inductive Value.SentAs (now : Int) : Value → Value → Prop
  | marker : SentAs now .pending (.int now)
  | itself {v : Value} (h : v ≠ .pending) : SentAs now v v

theorem Value.sentAs_resolve (now : Int) (v : Value) : SentAs now v (v.resolve now) := by
  cases v with
  | pending => exact .marker
  | _ => exact .itself (by simp)

theorem sentAs_resolveTimestamps (now : Int) (arguments : List Value) :
    List.Forall₂ (Value.SentAs now) arguments (resolveTimestamps now arguments) := by
  rw [resolveTimestamps, List.forall₂_map_right_iff, List.forall₂_same]
  intro v _
  exact Value.sentAs_resolve now v

theorem getElem?_of_sentAs {now : Int} {arguments sent : List Value}
    (h : List.Forall₂ (Value.SentAs now) arguments sent) {i : Nat} (hi : arguments[i]? = some .pending) :
    sent[i]? = some (.int now) := by
  induction h generalizing i with
  | nil => cases hi
  | cons hfirst _ ih =>
    cases i with
    | zero =>
      obtain rfl := Option.some.inj hi
      cases hfirst with
      | marker => rfl
      | itself hne => exact absurd rfl hne
    | succ i => exact ih hi

theorem unmarked_of_sentAs {now : Int} {arguments sent : List Value}
    (h : List.Forall₂ (Value.SentAs now) arguments sent) (hflat : ∀ v ∈ arguments, v.Flat) :
    ∀ v ∈ sent, v.Unmarked := by
  induction h with
  | nil => exact List.forall_mem_nil _
  | cons hfirst _ ih =>
    intro v hmem
    rcases List.mem_cons.mp hmem with rfl | hmem
    · cases hfirst with
      | marker => trivial
      | itself hne => exact (hflat _ List.mem_cons_self).resolve_left hne
    · exact ih (fun w hw => hflat w (List.mem_cons_of_mem _ hw)) v hmem

namespace Answered

def isClock (a : Answered) : Bool :=
  match a.request with
  | .clock => true
  | _ => false

/-- The arguments that a connection is sent. -/
def arguments (a : Answered) : List Value :=
  match a.request with
  | .execute _ _ arguments => arguments
  | _ => []

/-- The rows that storage answers with. -/
def rows : Answered → List Record
  | ⟨.execute .., .ok outcome⟩ => outcome.rows
  | _ => []

theorem arguments_of_not_statement {a : Answered} (h : ¬ a.isStatement = true) : a.arguments = [] := by
  obtain ⟨request, reply⟩ := a
  cases request with
  | execute c sql arguments => exact absurd rfl h
  | _ => rfl

/-- The statement that is sent first. A lookup is sent after it. -/
def primary? (told : List Answered) : Option Answered := (told.filter isStatement).head?

theorem primary?_append (told rest : List Answered) :
    primary? (told ++ rest) = (primary? told).or (primary? rest) := by
  rw [primary?, List.filter_append, List.head?_append]
  rfl

theorem rows_of_failed {a : Answered} (h : a.Failed) : a.rows = [] := by
  obtain ⟨request, reply⟩ := a
  obtain ⟨fault, hfault⟩ := h
  obtain rfl : reply = .error fault := hfault
  cases request with
  | _ => rfl

end Answered

namespace Statement

variable {s : Statement} {told : List Answered}

/-- **What a dispatch has to do with the time.** If there is nothing to send, nothing is asked for, and so no clock is
read. Else the clock is read once, and what is sent first is the statement with that reading for every pending time. -/
structure OneTime (s : Statement) (told : List Answered) : Prop where
  silent : s.sql = none → told = []
  once : (told.filter Answered.isClock).length ≤ 1
  sent : ∀ c sql arguments reply, Answered.primary? told = some (.sent c sql arguments reply) →
    s.sql = some sql ∧
      ∃ now, told.head? = some ⟨.clock, .ok now⟩ ∧ List.Forall₂ (Value.SentAs now) s.arguments arguments

/-- An execution that asks for anything asks for the time, and then for other things only. -/
theorem clocked_of_traced (h : s.Traced told) :
    (told = [] ∧ s.sql = none) ∨ ∃ sql reply rest, s.sql = some sql ∧ told = ⟨.clock, reply⟩ :: rest ∧
      rest.filter Answered.isClock = [] ∧ (rest.filter Answered.isStatement = [] ∨
        ∃ now c, reply = .ok now ∧ s.Sends sql now c (rest.filter Answered.isStatement)) := by
  have hsends : ∀ {sql now c statements}, s.Sends sql now c statements →
      statements.filter Answered.isClock = [] := by
    intro sql now c statements hsends
    apply List.filter_eq_nil_iff.mpr
    intro a hmem
    have hstatement : a.isStatement = true := List.filter_eq_self.mp (isStatement_of_sends hsends) a hmem
    obtain ⟨request, reply⟩ := a
    cases request with
    | execute c sql arguments => exact Bool.false_ne_true
    | _ => cases hstatement
  cases h with
  | silent hsql => exact .inl ⟨rfl, hsql⟩
  | timeless hsql fault => exact .inr ⟨_, _, [], hsql, rfl, rfl, .inl rfl⟩
  | poolless hsql _ now fault => exact .inr ⟨_, _, _, hsql, rfl, rfl, .inl rfl⟩
  | refused hsql _ now fault => exact .inr ⟨_, _, _, hsql, rfl, rfl, .inl rfl⟩
  | @bound sql c statements hsql _ now h =>
    refine .inr ⟨sql, _, statements, hsql, rfl, hsends h, .inr ⟨now, c, rfl, ?_⟩⟩
    rw [isStatement_of_sends h]
    exact h
  | @leased sql c statements hsql _ now h released =>
    refine .inr ⟨sql, _, _, hsql, rfl, ?_, .inr ⟨now, c, rfl, ?_⟩⟩
    · simp [Answered.isClock, Answered.acquired, hsends h]
    · simpa [Answered.isStatement, Answered.acquired, isStatement_of_sends h] using h

theorem head?_of_sends {sql : String} {now : Int} {c : Connection} {statements : List Answered}
    (h : s.Sends sql now c statements) :
    ∃ reply, statements.head? = some (.sent c sql (resolveTimestamps now s.arguments) reply) := by
  cases h with
  | failed fault => exact ⟨_, rfl⟩
  | succeeded _ => exact ⟨_, rfl⟩

theorem oneTime_of_traced (h : s.Traced told) : s.OneTime told := by
  rcases clocked_of_traced h with ⟨rfl, hsql⟩ | ⟨sql, reply, rest, hsql, rfl, hclock, hrest⟩
  · refine ⟨fun _ => rfl, Nat.zero_le _, ?_⟩
    intro c sql arguments reply hhead
    cases hhead
  · have hfirst : Answered.primary? (⟨.clock, reply⟩ :: rest) = (rest.filter Answered.isStatement).head? := rfl
    refine ⟨?_, ?_, ?_⟩
    · intro hnone
      cases hsql.symm.trans hnone
    · rw [List.filter_cons_of_pos rfl, hclock]
      exact Nat.le_refl _
    · intro c sql' arguments reply' hhead
      rw [hfirst] at hhead
      rcases hrest with hnone | ⟨now, c', rfl, hsends⟩
      · rw [hnone] at hhead
        cases hhead
      · obtain ⟨reply'', hhead'⟩ := head?_of_sends hsends
        cases hhead.symm.trans hhead'
        exact ⟨hsql, now, rfl, sentAs_resolveTimestamps now s.arguments⟩

/-- What holds of a whole conversation holds of it so far. -/
theorem OneTime.of_append {rest : List Answered} (h : s.OneTime (told ++ rest)) : s.OneTime told := by
  refine ⟨?_, ?_, ?_⟩
  · intro hsql
    exact (List.append_eq_nil_iff.mp (h.silent hsql)).1
  · have honce := h.once
    rw [List.filter_append, List.length_append] at honce
    exact Nat.le_trans (Nat.le_add_right _ _) honce
  · intro c sql arguments reply hhead
    obtain ⟨hsql, now, hclock, hsent⟩ := h.sent c sql arguments reply
      (by rw [Answered.primary?_append, hhead, Option.some_or])
    refine ⟨hsql, now, ?_, hsent⟩
    cases told with
    | nil => cases hhead
    | cons first told => exact hclock

theorem oneTime_of_leads {d : Dialogue Answer} (h : Dialogue.Leads s.execute told d) : s.OneTime told := by
  obtain ⟨rest, outcome, hruns, -, -⟩ := h.finish
  exact (oneTime_of_traced (traced_of_runs hruns)).of_append

/-! ## No pending time is sent -/

theorem unmarked_of_follows {c : Connection} {outcome : Outcome} {rest : List Answered}
    (hrows : ∀ row ∈ outcome.rows, row.Unmarked) (h : s.Follows c outcome rest) :
    ∀ a ∈ rest, ∀ v ∈ a.arguments, v.Unmarked := by
  cases h with
  | nothing _ => exact List.forall_mem_nil _
  | @lookup plan records keys h reply =>
    have hwanted : ∀ row ∈ s.wanted outcome, row ∈ outcome.rows := by
      intro row hmem
      unfold wanted at hmem
      split at hmem
      · cases hmem
      · exact List.mem_of_mem_take hmem
      · exact hmem
    have hrecords : ∀ record ∈ records, record.Unmarked := by
      intro record hmem
      obtain ⟨row, hrow, hcast⟩ := exists_of_mem_mapM h.cast hmem
      exact unmarked_cast (hrows row (hwanted row hrow)) hcast
    intro a hmem
    obtain rfl := List.mem_singleton.mp hmem
    exact Populating.unmarked_lookup (Population.unmarked_foreignKeys hrecords h.comparable)

theorem unmarked_of_sends {sql : String} {now : Int} {c : Connection} {statements : List Answered}
    (hflat : ∀ v ∈ s.arguments, v.Flat) (hrows : ∀ a ∈ statements, ∀ row ∈ a.rows, row.Unmarked)
    (h : s.Sends sql now c statements) : ∀ a ∈ statements, ∀ v ∈ a.arguments, v.Unmarked := by
  have hfirst := unmarked_of_sentAs (sentAs_resolveTimestamps now s.arguments) hflat
  cases h with
  | failed fault =>
    intro a hmem
    obtain rfl := List.mem_singleton.mp hmem
    exact hfirst
  | @succeeded outcome rest hfollows =>
    intro a hmem
    rcases List.mem_cons.mp hmem with rfl | hmem
    · exact hfirst
    · exact unmarked_of_follows (hrows _ List.mem_cons_self) hfollows a hmem

theorem unmarked_of_traced (hflat : ∀ v ∈ s.arguments, v.Flat)
    (hrows : ∀ a ∈ told, ∀ row ∈ a.rows, row.Unmarked) (h : s.Traced told) :
    ∀ a ∈ told, ∀ v ∈ a.arguments, v.Unmarked := by
  intro a hmem
  by_cases hstatement : a.isStatement = true
  · have hfiltered : a ∈ told.filter Answered.isStatement := List.mem_filter.mpr ⟨hmem, hstatement⟩
    rcases statements_of_traced h with hnone | ⟨sql, now, c, -, hsends⟩
    · rw [hnone] at hfiltered
      cases hfiltered
    · apply unmarked_of_sends hflat ?_ hsends a hfiltered
      intro b hb
      exact hrows b (List.mem_filter.mp hb).1
  · rw [Answered.arguments_of_not_statement hstatement]
    exact List.forall_mem_nil _

/-- **If storage has not answered with a pending time, none has been sent to it.** -/
theorem unmarked_of_leads {d : Dialogue Answer} (hflat : ∀ v ∈ s.arguments, v.Flat)
    (h : Dialogue.Leads s.execute told d) (hrows : ∀ a ∈ told, ∀ row ∈ a.rows, row.Unmarked) :
    ∀ a ∈ told, ∀ v ∈ a.arguments, v.Unmarked := by
  obtain ⟨rest, outcome, hruns, hfailed, -⟩ := h.finish
  have hall : ∀ a ∈ told ++ rest, ∀ row ∈ a.rows, row.Unmarked := by
    intro a hmem
    rcases List.mem_append.mp hmem with htold | hrest
    · exact hrows a htold
    · rw [Answered.rows_of_failed (hfailed a hrest)]
      exact List.forall_mem_nil _
  intro a hmem
  exact unmarked_of_traced hflat hall (traced_of_runs hruns) a (List.mem_append_left _ hmem)

/-- An execution that ends with an answer has sent its statement. -/
theorem sent_of_answered {sql : String} {answer : Answer} (hsql : s.sql = some sql)
    (h : Dialogue.Runs s.execute told (.ok answer)) :
    ∃ c arguments reply, Answered.primary? told = some (.sent c sql arguments reply) := by
  -- sending it is the first thing that is done on a connection
  have hbody : ∀ {now c told answer}, Dialogue.Runs ((Dialogue.request
      (.execute c sql (resolveTimestamps now s.arguments))).andThen fun (outcome : Outcome) => s.shape c outcome)
      told (.ok answer) → ∃ c arguments reply rest, told = .sent c sql arguments reply :: rest := by
    intro now c told answer hruns
    rcases Dialogue.runs_andThen.mp hruns with ⟨fault, -, hfault⟩ | ⟨outcome, first, second, rfl, hask, -⟩
    · cases hfault
    · rw [Dialogue.runs_request.mp hask]
      exact ⟨_, _, _, _, rfl⟩
  unfold execute at h
  simp only [hsql] at h
  rcases Dialogue.runs_andThen.mp h with ⟨fault, -, hfault⟩ | ⟨now, first, second, rfl, hclock, hrest⟩
  · cases hfault
  · rw [Dialogue.runs_request.mp hclock]
    obtain ⟨middle, outcome, last, rfl, hon, htranslate⟩ := Dialogue.runs_afterwards.mp hrest
    cases outcome with
    | error fault => cases (Dialogue.runs_fail.mp htranslate).2
    | ok answer =>
      unfold Dialogue.onConnection at hon
      cases hconnection : s.connection with
      | some c =>
        simp only [hconnection] at hon
        obtain ⟨c, arguments, reply, rest, rfl⟩ := hbody hon
        exact ⟨c, arguments, reply, rfl⟩
      | none =>
        simp only [hconnection] at hon
        rcases Dialogue.runs_andThen.mp hon with ⟨fault, -, hfault⟩ | ⟨_, first, second, rfl, hpool, hleased⟩
        · cases hfault
        · rw [Dialogue.runs_request.mp hpool]
          rcases Dialogue.runs_leased.mp hleased with ⟨fault, -, hfault⟩ | ⟨c, told, o, released, rfl, hon, hafter⟩
          · cases hfault
          · obtain rfl : o = .ok answer := by
              cases released with
              | ok _ => exact hafter.symm
              | error fault => cases hafter
            obtain ⟨c, arguments, reply, rest, rfl⟩ := hbody hon
            exact ⟨c, arguments, reply, rfl⟩

end Statement

namespace Query

/-! ## Dispatches -/

/-- A dispatch of a statement with the given arguments, as far as it has come. -/
structure Execution.Dispatches (arguments : List Value) (e : Execution) : Prop where
  kept : e.statement.arguments = arguments
  way : Dialogue.Leads e.statement.execute e.told e.now

theorem Execution.Dispatches.replied {arguments : List Value} {e : Execution} (h : e.Dispatches arguments)
    (reply : (q : Request) → Except Fault q.Reply) : (e.replied reply).Dispatches arguments := by
  obtain ⟨statement, told, now⟩ := e
  cases now with
  | done outcome => exact h
  | ask q next => exact ⟨h.kept, h.way.further (reply q)⟩

theorem arguments_of_modify {registry : Option Registry} {q q' : Query} {m : Modifier}
    (h : q.modify registry m = .ok q') : q'.arguments = q.arguments := by
  obtain ⟨_, -, h⟩ := exists_of_bind_eq_ok h
  cases makes_of_apply h <;> rfl

theorem arguments_leaves (e : Execution) (q : Query) : (e.leaves q).arguments = q.arguments := by
  unfold Execution.leaves
  split
  · rfl
  · rfl

namespace Life

variable {registry : Option Registry} {arguments : List Value} {life : Life}

/-- Whatever is built of the query and run has the same arguments. -/
structure Keeps (arguments : List Value) (life : Life) : Prop where
  query : life.query.arguments = arguments
  saved : ∀ s, .built s ∈ life.results → s.arguments = arguments
  runs : ∀ e ∈ life.executions, e.Dispatches arguments

theorem Keeps.giving (h : Keeps arguments life) {result : Result}
    (hresult : ∀ s, result = .built s → s.arguments = arguments) : Keeps arguments (life.giving result) := by
  refine ⟨h.query, ?_, h.runs⟩
  intro s hmem
  rcases List.mem_append.mp hmem with hold | hnew
  · exact h.saved s hold
  · exact hresult s (List.mem_singleton.mp hnew).symm

theorem Keeps.act (h : Keeps arguments life) (a : Act) : Keeps arguments (life.act registry a) := by
  cases a with
  | modify m =>
    cases hmodify : life.query.modify registry m with
    | error fault =>
      simp only [Life.act, hmodify]
      exact h.giving (by simp)
    | ok q =>
      simp only [Life.act, hmodify]
      have hq : Keeps arguments { life with query := q } :=
        ⟨(arguments_of_modify hmodify).trans h.query, h.saved, h.runs⟩
      exact hq.giving (by simp)
  | build =>
    apply h.giving
    intro s hs
    rw [← Result.built.inj hs]
    exact h.query
  | execute =>
    by_cases hstage : life.query.stage = .building
    · simp only [Life.act, begin_of_building hstage]
      apply Keeps.giving
      · refine ⟨?_, h.saved, ?_⟩
        · rw [arguments_leaves]
          exact h.query
        · intro e hmem
          rcases List.mem_append.mp hmem with hold | hnew
          · exact h.runs e hold
          · rw [List.mem_singleton.mp hnew]
            exact ⟨h.query, .here _⟩
      · simp
    · simp only [Life.act, begin_of_started hstage]
      exact h.giving (by simp)
  | reply i reply =>
    cases he : life.executions[i]? with
    | none =>
      simp only [Life.act, he]
      exact h
    | some e =>
      simp only [Life.act, he]
      refine ⟨?_, h.saved, ?_⟩
      · rw [arguments_leaves]
        exact h.query
      · intro other hmem
        rcases List.mem_or_eq_of_mem_set hmem with hold | rfl
        · exact h.runs other hold
        · exact (h.runs e (List.mem_of_getElem? he)).replied reply

end Life

/-- A query on a desk, and the runs of statements that were saved of it. -/
structure Desk where
  life : Life
  reruns : List Execution

inductive Deed
  /-- Something is done with the query. -/
  | act (a : Act)
  /-- The statement that a call of `build` gave is run again. Its handlers may have been used since. -/
  | rerun (call : Nat) (causes : Causes)
  | reply (rerun : Nat) (reply : (q : Request) → Except Fault q.Reply)

namespace Desk

def act (registry : Option Registry) (desk : Desk) : Deed → Desk
  | .act a => { desk with life := desk.life.act registry a }
  | .rerun i causes => match desk.life.results[i]? with
    | some (.built s) =>
      { desk with reruns := desk.reruns ++ [⟨s.remembering causes, [], (s.remembering causes).execute⟩] }
    | _ => desk
  | .reply i reply => match desk.reruns[i]? with
    | some e => { desk with reruns := desk.reruns.set i (e.replied reply) }
    | none => desk

/-- What there is on the desk after some deeds. -/
def after (registry : Option Registry) (q : Query) (deeds : List Deed) : Desk :=
  deeds.foldl (act registry) ⟨⟨q, [], []⟩, []⟩

def dispatches (desk : Desk) : List Execution := desk.life.executions ++ desk.reruns

variable {registry : Option Registry} {arguments : List Value} {desk : Desk}

structure Keeps (arguments : List Value) (desk : Desk) : Prop where
  life : desk.life.Keeps arguments
  reruns : ∀ e ∈ desk.reruns, e.Dispatches arguments

theorem Keeps.act (h : Keeps arguments desk) (deed : Deed) : Keeps arguments (desk.act registry deed) := by
  cases deed with
  | act a => exact ⟨h.life.act a, h.reruns⟩
  | rerun i causes =>
    unfold Desk.act
    dsimp only
    split
    case h_1 s hs =>
      refine ⟨h.life, ?_⟩
      intro e hmem
      rcases List.mem_append.mp hmem with hold | hnew
      · exact h.reruns e hold
      · rw [List.mem_singleton.mp hnew]
        exact ⟨h.life.saved s (List.mem_of_getElem? hs), .here _⟩
    case h_2 => exact h
  | reply i reply =>
    unfold Desk.act
    dsimp only
    split
    case h_1 e he =>
      refine ⟨h.life, ?_⟩
      intro other hmem
      rcases List.mem_or_eq_of_mem_set hmem with hold | rfl
      · exact h.reruns other hold
      · exact (h.reruns e (List.mem_of_getElem? he)).replied reply
    case h_2 => exact h

theorem keeps_after (registry : Option Registry) (q : Query) (deeds : List Deed) :
    Keeps q.arguments (after registry q deeds) := by
  have hfold : ∀ {desk : Desk}, Keeps q.arguments desk → Keeps q.arguments (deeds.foldl (Desk.act registry) desk) := by
    induction deeds with
    | nil => exact id
    | cons deed rest ih =>
      intro desk h
      exact ih (h.act deed)
  apply hfold
  exact ⟨⟨rfl, by simp, by simp⟩, by simp⟩

theorem Keeps.dispatches (h : Keeps arguments desk) : ∀ e ∈ desk.dispatches, e.Dispatches arguments := by
  intro e hmem
  rcases List.mem_append.mp hmem with hown | hrerun
  · exact h.life.runs e hown
  · exact h.reruns e hrerun

/-- **Every dispatch sends one time, and its own.** The statements that are saved have the query's arguments, and so has
every statement that is dispatched. A connection is first sent these arguments, position by position, with the one
reading that this dispatch made of the clock for every pending time; no pending time is sent, not even with a lookup
unless storage gave one away; and if there is nothing to send, no clock is read. So the timestamps that are left open in
the rows of an insertion are sent as one time, which is found at the places that its text has for their columns. -/
theorem dispatched_at_one_time (registry : Option Registry) {model : Model} {schema : Value} {op : Operation}
    {q : Query} (hquery : op.query model schema = .ok q) (hmodel : model.Flat) (hop : op.Flat) (deeds : List Deed) :
    (∀ s, .built s ∈ (after registry q deeds).life.results → s.arguments = q.arguments) ∧
    (∀ e ∈ (after registry q deeds).dispatches, e.statement.arguments = q.arguments ∧
      Dialogue.Leads e.statement.execute e.told e.now ∧ e.statement.OneTime e.told ∧
      (∀ sql answer, e.statement.sql = some sql → e.now = .done (.ok answer) →
        ∃ c arguments reply, Answered.primary? e.told = some (.sent c sql arguments reply)) ∧
      (∀ c sql arguments reply, Answered.primary? e.told = some (.sent c sql arguments reply) →
        ∀ v ∈ arguments, v.Unmarked) ∧
      ((∀ a ∈ e.told, ∀ row ∈ a.rows, row.Unmarked) → ∀ a ∈ e.told, ∀ v ∈ a.arguments, v.Unmarked)) ∧
    ∀ given items, op = .createEach given → given.items = .ok items → items ≠ [] →
      ∀ name a, model.attributes.get? name = some a → a.isTimestamp = true → ∃ (columns : List Value) (place : Nat),
        q.sql = some (model.insertSql schema
          ⟨Insert.columnsSql columns, Insert.valuesSql 0 columns.length items.length⟩) ∧
        columns[place]? = some (.text name) ∧
        ∀ e ∈ (after registry q deeds).dispatches, ∀ c sql arguments reply,
          Answered.primary? e.told = some (.sent c sql arguments reply) →
          ∃ now, e.told.head? = some ⟨.clock, .ok now⟩ ∧ ∀ (i : Nat) (v : Value) (entries : Record),
            items[i]? = some v → v.entries = .ok entries → a.LeftOpen (entries.get? (.text name)) →
            arguments[i * columns.length + place]? = some (.int now) := by
  have hkeeps := keeps_after registry q deeds
  have hflat := Operation.flat_of_query hmodel hop hquery
  refine ⟨hkeeps.life.saved, ?_, ?_⟩
  · intro e he
    have hdispatch := hkeeps.dispatches e he
    have hown : ∀ v ∈ e.statement.arguments, v.Flat := hdispatch.kept ▸ hflat
    have htime := Statement.oneTime_of_leads hdispatch.way
    refine ⟨hdispatch.kept, hdispatch.way, htime, ?_, ?_, Statement.unmarked_of_leads hown hdispatch.way⟩
    · intro sql answer hsql hend
      have hway := hdispatch.way
      rw [hend] at hway
      exact Statement.sent_of_answered hsql hway
    · intro c sql arguments reply hprimary
      obtain ⟨-, now, -, hsent⟩ := htime.sent c sql arguments reply hprimary
      exact unmarked_of_sentAs hsent hown
  · rintro given items rfl hitems hne name a ha htimestamp
    obtain ⟨columns, place, hsql, hplace, hpending⟩ :=
      Operation.pending_of_createEach hitems hne hquery ha htimestamp
    refine ⟨columns, place, hsql, hplace, ?_⟩
    intro e he c sql arguments reply hprimary
    have hdispatch := hkeeps.dispatches e he
    obtain ⟨-, now, hclock, hsent⟩ := (Statement.oneTime_of_leads hdispatch.way).sent c sql arguments reply hprimary
    rw [hdispatch.kept] at hsent
    refine ⟨now, hclock, ?_⟩
    intro i v entries hv hentries hopen
    exact getElem?_of_sentAs hsent (hpending i v entries hv hentries hopen)

/-- A model with a timestamp of each kind, one of them for a column that is written as JSON. -/
def audited : Model where
  name := "Audited"
  attributes := [("name", ⟨.string, false, none, false, false, false, none⟩),
    ("created_at", ⟨.number, false, none, false, true, false, none⟩),
    ("changes", ⟨.json, true, some .null, false, false, true, none⟩)]

/-- Two rows with their columns in different orders, one of them with a null. -/
def twoRows : Value :=
  .list [.map [(.text "name", .text "a")], .map [(.text "changes", .null), (.text "name", .text "b")]]

/-- A storage that answers everything, at a time. -/
def replying (now : Int) : (q : Request) → Except Fault q.Reply
  | .clock => .ok now
  | .pool => .ok ()
  | .acquire => .ok "c0"
  | .execute .. => .ok ⟨[], 2⟩
  | .release _ => .ok ()

/-- A query is run, and the statement that was built of it before as well; they take turns. -/
def takingTurns : List Deed :=
  [.act .build, .act .execute, .rerun 0 []]
    ++ (List.replicate 5 [.act (.reply 0 (replying 1000)), .reply 0 (replying 2000)]).flatten

theorem dispatched_twice :
    ∃ q, (Operation.createEach twoRows).query audited .null = .ok q ∧ audited.Flat ∧
      (Operation.createEach twoRows).Flat ∧
      (∀ s, .built s ∈ (after (some ⟨[]⟩) q takingTurns).life.results →
        s.arguments = [.text "a", .pending, .pending, .text "b", .pending, .pending]) ∧
      (after (some ⟨[]⟩) q takingTurns).dispatches.map (fun e => (Answered.primary? e.told).map Answered.arguments) =
        [some [.text "a", .int 1000, .int 1000, .text "b", .int 1000, .int 1000],
          some [.text "a", .int 2000, .int 2000, .text "b", .int 2000, .int 2000]] := by
  obtain ⟨q, hquery⟩ : ∃ q, (Operation.createEach twoRows).query audited .null = .ok q := ⟨_, rfl⟩
  have hmodel : audited.Flat := by
    intro entry hmem v hdeclared
    simp only [audited, List.mem_cons, List.not_mem_nil, or_false] at hmem
    rcases hmem with rfl | rfl | rfl
    · cases hdeclared
    · cases hdeclared
    · exact .inr (Option.some.inj hdeclared ▸ trivial)
  have hop : (Operation.createEach twoRows).Flat := by
    intro items hitems v hv entries hentries entry hentry
    obtain rfl := Except.ok.inj hitems
    simp only [List.mem_cons, List.not_mem_nil, or_false] at hv
    rcases hv with rfl | rfl
    · obtain rfl := Except.ok.inj hentries
      simp only [List.mem_cons, List.not_mem_nil, or_false] at hentry
      rw [hentry]
      exact .inr trivial
    · obtain rfl := Except.ok.inj hentries
      simp only [List.mem_cons, List.not_mem_nil, or_false] at hentry
      rcases hentry with rfl | rfl
      · exact .inr trivial
      · exact .inr trivial
  obtain ⟨hsaved, -, -⟩ := dispatched_at_one_time (some ⟨[]⟩) hquery hmodel hop takingTurns
  refine ⟨q, hquery, hmodel, hop, ?_, ?_⟩
  · intro s hs
    rw [hsaved s hs]
    obtain rfl := Except.ok.inj hquery
    rfl
  · obtain rfl := Except.ok.inj hquery
    rfl

end Desk

end Query

end ModelStore

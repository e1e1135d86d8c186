import ModelStore.Query.Statement
import ModelStore.Transaction

/-!
# What a task may do

Tasks run transactions and execute statements. The units of work in the transactions may do the same in
their turn: they may send statements on the connection they were given, bound to it or by hand, execute
others on connections of their own, and run transactions inside theirs. `Program` is all that a task may do.

What it may not do is use a connection that it was not given, or not any more, and give back or hand on one
that it was. That is what whoever writes a unit of work agrees to, and nothing checks it; so it is an
assumption of everything that is said about leases. **It asks nothing of bound statements**: executing one
is sending statements on its connection, and never gives it back (`Program.of_bound`).
-/

namespace ModelStore

open Dialogue

/-! ## Tasks -/

/-- What a task may run that leases a connection. -/
inductive Call : Type 1
  | statement (s : Statement)
  | transaction {α : Type} (work : Connection → Dialogue α)

/-- **What a task may do** with the connections that it was given, and with its own calls. -/
inductive Program (calls : Call → Prop) : List Connection → {α : Type} → Dialogue α → Prop
  | done {own : List Connection} {α : Type} (o : Except Fault α) : Program calls own (.done o)
  | clock {own : List Connection} {α : Type} {next : Except Fault Int → Dialogue α}
      (h : ∀ reply, Program calls own (next reply)) : Program calls own (.ask .clock next)
  | pool {own : List Connection} {α : Type} {next : Except Fault Unit → Dialogue α}
      (h : ∀ reply, Program calls own (next reply)) : Program calls own (.ask .pool next)
  /-- Sends a statement on a connection that it was given. -/
  | send {own : List Connection} {α : Type} {c : Connection} {sql : String} {arguments : List Value}
      {next : Except Fault Outcome → Dialogue α} (hc : c ∈ own)
      (h : ∀ reply, Program calls own (next reply)) :
      Program calls own (.ask (.execute c sql arguments) next)
  /-- Executes a statement that is not bound to a connection. -/
  | statement {own : List Connection} {α : Type} {s : Statement} {next : Except Fault Answer → Dialogue α}
      (hcall : calls (.statement s)) (hunbound : s.connection = none)
      (h : ∀ o, Program calls own (next o)) : Program calls own (s.execute.afterwards next)
  /-- Runs a transaction, whose work is given one connection more. -/
  | transaction {own : List Connection} {α β : Type} {work : Connection → Dialogue β}
      {next : Except Fault β → Dialogue α} (hcall : calls (.transaction work))
      (hwork : ∀ c, Program calls (c :: own) (work c)) (h : ∀ o, Program calls own (next o)) :
      Program calls own ((Transaction.run work).afterwards next)

section Programs

variable {calls : Call → Prop} {own : List Connection} {α β : Type}

theorem Program.afterwards {d : Dialogue β} {next : Except Fault β → Dialogue α}
    (hd : Program calls own d) (hnext : ∀ o, Program calls own (next o)) :
    Program calls own (d.afterwards next) := by
  induction hd with
  | done o => exact hnext o
  | clock _ ih => exact .clock fun reply => ih reply hnext
  | pool _ ih => exact .pool fun reply => ih reply hnext
  | send hc _ ih => exact .send hc fun reply => ih reply hnext
  | statement hcall hunbound _ ih =>
    -- what follows the call is put after what follows it already
    rw [afterwards_assoc]
    exact .statement hcall hunbound fun o => ih o hnext
  | transaction hcall hwork _ _ ih =>
    rw [afterwards_assoc]
    exact .transaction hcall hwork fun o => ih o hnext

theorem Program.andThen {d : Dialogue β} {next : β → Dialogue α} (hd : Program calls own d)
    (hnext : ∀ x, Program calls own (next x)) : Program calls own (d.andThen next) := by
  refine hd.afterwards ?_
  intro o
  cases o with
  | ok x => exact hnext x
  | error fault => exact .done _

theorem Program.of_statement {s : Statement} (hcall : calls (.statement s))
    (hunbound : s.connection = none) : Program calls own s.execute := by
  rw [← afterwards_done s.execute]
  exact .statement hcall hunbound .done

theorem Program.of_transaction {work : Connection → Dialogue α} (hcall : calls (.transaction work))
    (hwork : ∀ c, Program calls (c :: own) (work c)) : Program calls own (Transaction.run work) := by
  rw [← afterwards_done (Transaction.run work)]
  exact .transaction hcall hwork .done

/-- **Executing a statement that is bound to a connection of one's own** is within the rules: it sends
statements on it, and does not give it back. -/
theorem Program.of_bound {s : Statement} {c : Connection} (hbound : s.connection = some c)
    (hc : c ∈ own) : Program calls own s.execute := by
  have hrequest : ∀ (sql : String) (arguments : List Value),
      Program calls own (request (.execute c sql arguments)) := fun _ _ => .send hc .done
  have hpopulated : ∀ single records, Program calls own (s.populated c single records) := by
    intro single records
    unfold Statement.populated
    cases s.population with
    | none => exact .done _
    | some plan =>
      simp only
      split
      · exact .done _
      · refine .andThen (.done _) fun keys => .andThen ?_ fun related => .done _
        unfold Populating.related
        split
        · exact .done _
        · exact .andThen (hrequest _ _) fun outcome => .done _
  have hshape : ∀ outcome, Program calls own (s.shape c outcome) := by
    intro outcome
    have hrecords : ∀ single, Program calls own
        ((Dialogue.done ((s.wanted outcome).mapM s.cast)).andThen (s.populated c single)) :=
      fun single => .andThen (.done _) (hpopulated single)
    unfold Statement.shape
    cases s.mode with
    | raw => exact .done _
    | single => exact (hrecords _).andThen fun rs => .done _
    | rows => exact (hrecords _).andThen fun rs => .done _
  unfold Statement.execute
  cases s.sql with
  | none => exact .done _
  | some sql =>
    refine .andThen (.clock .done) fun now => .afterwards ?_ fun o => ?_
    · simp only [onConnection, hbound]
      exact .andThen (hrequest _ _) fun outcome => hshape outcome
    · cases o <;> exact .done _

end Programs

end ModelStore

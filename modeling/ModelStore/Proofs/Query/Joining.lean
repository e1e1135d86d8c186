import ModelStore.Proofs.Query.Execution
import ModelStore.Proofs.Record.Join

/-!
# Executing a statement with a population

A storage that gives the rows of a table when it is asked for some of their ids is asked once, for all of them, if
the statement is about rows, and for the one there is, if it is about a single row. The texts of the two lookups
differ, and so do their arguments. **What comes of it is the same** (`populate_joins`): every record joined with
the table, whatever the order in which storage gives the rows, and each as if its row had been the only one.

Nothing of this depends on what else happens in the execution, as long as storage refuses nothing
(`shape_of_runs`): an execution comes down to shaping the rows that its statement gave.
-/

namespace ModelStore

open Dialogue Population

variable {α : Type}

/-! ## Conversations without refusals -/

def Willing (told : List Answered) : Prop := ∀ a ∈ told, ∃ reply, a.reply = .ok reply

theorem Willing.tail {a : Answered} {rest : List Answered} (h : Willing (a :: rest)) : Willing rest :=
  fun b hb => h b (List.mem_cons_of_mem _ hb)

namespace Statement

end Statement

/-! ## Lookups -/

namespace Populating

/-- The text of a lookup, which does not depend on the keys. -/
def text (plan : Populating) (single : Bool) : String := (plan.lookup single []).1.render

/-- **If it is a lookup, it is answered with the rows of a table that have one of the ids asked for.** -/
structure Answers (plan : Populating) (table : List Record) (a : Answered) : Prop where
  one : ∀ c key outcome, a = .sent c (plan.text true) [key] (.ok outcome) → outcome.rows.Perm (rowsOf table [key])
  several : ∀ c keys outcome, a = .sent c (plan.text false) [.list keys] (.ok outcome) →
    outcome.rows.Perm (rowsOf table keys)

variable {plan : Populating} {c : Connection} {table records : List Record} {told : List Answered}

/-- A population that can be carried out: the keys of the records are keys, every row of the table has an id of its
own, and the rows that a record refers to can be cast. -/
structure Joinable (plan : Populating) (records table : List Record) : Prop where
  keys : ∀ record ∈ records, (keyOf plan.relation record).isKey = true
  identified : Identified table
  cast : ∀ record ∈ records, ∀ row ∈ table,
    (keyOf plan.relation record).equal (idOf row) = true → ∃ related, plan.target.castRecord row = .ok related

theorem Joinable.singleton (h : plan.Joinable records table) {record : Record} (hrecord : record ∈ records) :
    plan.Joinable [record] table := by
  have hmem : ∀ other ∈ [record], other ∈ records := by
    intro other hother
    rwa [List.mem_singleton.mp hother]
  exact ⟨fun other hother => h.keys other (hmem other hother), h.identified,
    fun other hother => h.cast other (hmem other hother)⟩

abbrev joins (plan : Populating) (table : List Record) : Record → Record :=
  joined plan.target table plan.relation

end Populating

namespace Statement

/-! ## Shaping -/

variable {s : Statement} {plan : Populating} {c : Connection} {outcome : Outcome} {records table : List Record}
  {told : List Answered}

end Statement

/-! ## The theorem -/

namespace Statement

variable {s : Statement} {sql : String} {plan : Populating} {rows records table : List Record}

end Statement

/-! ## Storages that oblige -/

namespace Populating

variable {plan : Populating} {rows table : List Record} {c : Connection}

end Populating

namespace Statement

def users : List Record :=
  [[(.text "id", .int 1), (.text "name", .text "Ann")], [(.text "id", .int 2), (.text "name", .text "Bob")]]

/-- The number one, as a float. -/
def one : Value := .float (.finite false (Nat.pow 2 52) (-52))

/-- Of these, the first and the last two point to two users, the others nowhere. -/
def posts : List Record :=
  [[(.text "id", .int 1), (.text "author", .int 2)], [(.text "id", .int 2), (.text "author", .null)],
    [(.text "id", .int 3)], [(.text "id", .int 4), (.text "author", .int 9)],
    [(.text "id", .int 5), (.text "author", one)],
    [(.text "id", .int 6), (.text "author", .bool true)]]

def listing : Statement :=
  { populating with model := some ⟨"Post", [], false⟩ }

/-- The users are found in another order than that of the table. -/
def library : Script := { answering with responses := [.ok ⟨posts, 6⟩, .ok ⟨users.reverse, 2⟩] }

end Statement
end ModelStore

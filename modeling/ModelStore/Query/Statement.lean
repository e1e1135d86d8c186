import ModelStore.Association
import ModelStore.Record.Cast
import ModelStore.Record.Population
import ModelStore.Sql
import ModelStore.Storage.Handler
import ModelStore.Storage.Lease
import ModelStore.Storage.Violation
import ModelStore.Write.Timestamps

/-!
# Statements and their execution

A statement is all that is needed to ask storage something once or many times: its text, its arguments,
and what is to be made of the answer. Executing it is a dialogue, in this order:

1. the pending times among the arguments are resolved by one reading of the clock;
2. the statement is sent, on its own connection if it has one and on a leased one otherwise;
3. the answer is shaped: handed on raw, or made into one record or into all of them;
4. if a population is planned and there is anything to look up, the related records are fetched by one
   more statement on the same connection;
5. an ordinary failure of any of this is translated by the statement's interceptors.

A statement without text has nothing to say to storage, and executing it asks nothing, not even the time.
-/

namespace ModelStore

/-! ## Statements -/

/-- What is made of storage's answer. -/
inductive Mode
  | raw
  | single
  | rows
  deriving DecidableEq, Repr, Inhabited

def Mode.name : Mode → String
  | raw => "raw"
  | single => "single"
  | rows => "rows"

/-- The plan to replace the keys in a relation attribute by the records they point to. -/
structure Populating where
  relation : String
  target : Model
  table : Sql
  deriving Repr, Inhabited

structure Statement where
  sql : Option String
  arguments : List Value
  model : Option Model
  mode : Mode
  /-- Meant for one row at most. -/
  single : Bool
  population : Option Populating
  /-- Handlers by native code. -/
  interceptors : Association Handler
  connection : Option Connection

/-- A statement that a caller writes out, without a model. Its text may be missing. -/
def Statement.direct (sql arguments : Value) (mode : Mode) (single : Bool) : Except Fault Statement := do
  let arguments ← arguments.items
  match Attribute.optionalText sql with
  | .ok sql => .ok ⟨sql, arguments, none, mode, single, none, [], none⟩
  | .error problem => .error (.invalid [⟨["sql"], problem⟩])

/-- What executing a statement gives. -/
inductive Answer
  | raw (outcome : Outcome)
  | record (record : Option Record)
  | records (records : List Record)
  deriving Repr, Inhabited

/-- The answer of a statement that asked nothing. -/
def Answer.empty : Mode → Answer
  | .raw => .raw .empty
  | .single => .record none
  | .rows => .records []

/-! ## Population -/

namespace Populating

/-- The statement that looks related records up, with its argument: by one key, or by a list of keys. -/
def lookup (plan : Populating) (single : Bool) (keys : List Value) : Sql × List Value :=
  let select := Sql.keywords [.SELECT] ++ [.blank, .mark .star, .blank, .keyword .FROM, .blank]
    ++ plan.table ++ [.blank, .keyword .WHERE, .blank, .name primaryKey, .blank, .mark .equal, .blank]
  if single then (select ++ [.placeholder 1], keys.take 1)
  else (select ++ [.keyword .ANY] ++ Sql.parenthesized [.placeholder 1], [.list keys])

/-- The related records of some keys; none are asked for if there are no keys. -/
def related (plan : Populating) (c : Connection) (single : Bool) (keys : List Value) :
    Dialogue (List Record) :=
  if keys.isEmpty then .ok []
  else
    let (sql, arguments) := plan.lookup single keys
    (Dialogue.request (.execute c sql.render arguments)).andThen fun (outcome : Outcome) =>
      .done (outcome.rows.mapM plan.target.castRecord)

/-- Records with the keys in the relation attribute replaced. -/
def populate (plan : Populating) (c : Connection) (single : Bool) (records : List Record) :
    Dialogue (List Record) :=
  (Dialogue.done (Population.foreignKeys records plan.relation)).andThen fun keys =>
    (plan.related c single keys).andThen fun related =>
      .done (Population.merge records plan.relation related)

end Populating

/-! ## Execution -/

namespace Statement

/-- A row as a record of the statement's model, if it has one. -/
def cast (s : Statement) (row : Record) : Except Fault Record :=
  match s.model with
  | some model => model.castRecord row
  | none => .ok row

/-- Carries out the statement's population, if there is one and there are records. -/
def populated (s : Statement) (c : Connection) (single : Bool) (records : List Record) :
    Dialogue (List Record) :=
  match s.population with
  | some plan => if records.isEmpty then .ok records else plan.populate c single records
  | none => .ok records

/-- The rows that the statement's mode is about. -/
def wanted (s : Statement) (outcome : Outcome) : List Record :=
  match s.mode with
  | .raw => []
  | .single => outcome.rows.take 1
  | .rows => outcome.rows

/-- Makes of storage's answer what the statement's mode asks for. -/
def shape (s : Statement) (c : Connection) (outcome : Outcome) : Dialogue Answer :=
  let records := (Dialogue.done ((s.wanted outcome).mapM s.cast)).andThen
    (s.populated c (s.mode == .single))
  match s.mode with
  | .raw => .ok (.raw outcome)
  | .single => records.andThen fun rs => .ok (.record rs.head?)
  | .rows => records.andThen fun rs => .ok (.records rs)

/-- The handler for a native code. -/
def handler? (s : Statement) (code : String) : Option Handler := s.interceptors.get? code

/-- What is raised for a failure. One that calls the work off is left alone. Otherwise its code decides:
the handler for it, if there is one; else, if the statement was meant for one row and the code says that
there were several, a fault that says so. -/
def translate (s : Statement) (fault : Fault) : Fault :=
  if !fault.isOrdinary then fault
  else match fault.code? with
    | none => fault
    | some code => match s.handler? code with
      | some handler => match handler.rejection fault with
        | .ok rejection => .because rejection fault
        | .error failure => failure
      | none =>
        if s.single && Violation.ofCode? code == some .ambiguousMatch then
          .because (.ambiguous ("More than one row matched: " ++ fault.text) (.text code)) fault
        else fault

/-- Executes a statement once. -/
def execute (s : Statement) : Dialogue Answer :=
  match s.sql with
  | none => .ok (.empty s.mode)
  | some sql =>
    (Dialogue.request .clock).andThen fun (now : Int) =>
      (Dialogue.onConnection s.connection fun c =>
        (Dialogue.request (.execute c sql (resolveTimestamps now s.arguments))).andThen
          fun (outcome : Outcome) => s.shape c outcome).afterwards fun
        | .ok answer => .ok answer
        | .error fault => .fail (s.translate fault)

/-! ## Handlers that remember -/

/-- The causes after a run of a statement: if a handler's fault was raised in it, what for. -/
def causesAfter {α : Type} (s : Statement) (causes : Causes) : Except Fault α → Causes
  | .error (.because _ native) => match native.code?.bind s.handler? with
    | some (.fault object _) => (object, native) :: causes
    | _ => causes
  | _ => causes

/-- A statement with its handlers as they are after what their faults were raised for. -/
def remembering (s : Statement) (causes : Causes) : Statement :=
  { s with interceptors := s.interceptors.map fun entry => (entry.1, entry.2.remembering causes) }

end Statement
end ModelStore

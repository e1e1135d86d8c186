import ModelStore.Proofs.Query.Clauses

/-!
# What a call is read as

A call is an operation of a model, with a schema and any modifiers. Its *reading* is what its values come
down to, if they are accepted: columns, conditions, an order, a limit. From the reading two things are
taken. One is *the names of the call*, in the order in which they are written: those that the caller gave,
the columns that the model fills in, its table, and its primary key where one row is looked for. The other
is *the shape of the call*: counts, kinds and the limit, **and no name or value in it**.

The text of a statement has one outline for each shape, and it is written down here. That it is this
outline is proved elsewhere.
-/

namespace ModelStore

open Sql

/-! ## Operations and what they are read as -/

inductive Operation
  | create (given : Value)
  | createEach (given : Value)
  | find (criteria select sort limit : Value)
  | findOne (criteria select : Value)
  | update (criteria given : Value)
  | updateOne (criteria given : Value)
  | destroy (criteria : Value)
  | destroyOne (criteria : Value)

namespace Operation

/-- The query of an operation of a model. -/
def query (model : Model) (schema : Value) : Operation → Except Fault Query
  | create given => model.create given schema
  | createEach given => model.createEach given schema
  | find criteria select sort limit => model.findSorted criteria select schema sort limit
  | findOne criteria select => model.findOne criteria select schema
  | update criteria given => model.update criteria given schema
  | updateOne criteria given => model.updateOne criteria given schema
  | destroy criteria => model.destroy criteria schema
  | destroyOne criteria => model.destroyOne criteria schema

inductive Kind
  | create | createEach | find | findOne | update | updateOne | destroy | destroyOne
  deriving DecidableEq, Repr

/-- What a caller's values are read as: the columns to write and the number of rows, the columns to select
if not all of them are, the conditions; and what the modifiers set. -/
structure Reading where
  kind : Kind
  written : List Value := []
  rows : Nat := 0
  selected : Option (List Value) := none
  conditions : List Condition := []
  fetching : Bool := false
  order : Option Order := none
  limit : Option Nat := none

/-- What is read of a value that may be missing. -/
def optionally {α : Type} (parse : Value → Except Fault α) (v : Value) : Except Fault (Option α) :=
  if v.isNull then .ok none else (parse v).map some

def reading (model : Model) : Operation → Except Fault Reading
  | create given => do
    let record := model.fill .creating (← given.entries)
    .ok { kind := .create, written := record.map (·.1), rows := 1 }
  | createEach given => do
    let rows ← (← given.items).mapM fun v => do .ok (model.fill .creating (← v.entries))
    .ok { kind := .createEach, written := (rows.head?.getD []).map (·.1), rows := rows.length }
  | find criteria select sort limit => do
    let selected ← selectedColumns select
    let conditions ← Criteria.parse criteria
    let order ← optionally Order.parse sort
    let limit ← optionally parseLimit limit
    .ok { kind := .find, selected := selected, conditions := conditions, order := order, limit := limit }
  | findOne criteria select => do
    let selected ← selectedColumns select
    .ok { kind := .findOne, selected := selected, conditions := ← Criteria.parse criteria }
  | update criteria given => do
    let record := model.fill .changing (← given.entries)
    .ok { kind := .update, written := record.map (·.1), conditions := ← Criteria.parse criteria }
  | updateOne criteria given => do
    let record := model.fill .changing (← given.entries)
    .ok { kind := .updateOne, written := record.map (·.1), conditions := ← Criteria.parse criteria,
          fetching := true }
  | destroy criteria => do .ok { kind := .destroy, conditions := ← Criteria.parse criteria }
  | destroyOne criteria => do .ok { kind := .destroyOne, conditions := ← Criteria.parse criteria }

namespace Reading

/-- The names in the conditions; for one row, those of the selection of its key. -/
def conditionNames (r : Reading) (one : Bool) (table : List String) : List String :=
  (if one then primaryKey :: primaryKey :: table else []) ++ r.conditions.map Condition.column

/-- The names of an operation, in the order in which they are written. -/
def bodyNames (r : Reading) (table : List String) : List String :=
  let selected := (r.selected.getD []).map Value.plain
  let written := r.written.map Value.plain
  match r.kind with
  | .create | .createEach => table ++ written
  | .find => selected ++ table ++ r.conditionNames false table
  | .findOne => selected ++ table ++ r.conditionNames true table
  | .update => table ++ written ++ r.conditionNames false table
  | .updateOne => table ++ written ++ r.conditionNames true table
  | .destroy => table ++ r.conditionNames false table
  | .destroyOne => table ++ r.conditionNames true table

/-- **The names of a call**: those of its operation, and then the column of its order. -/
def names (r : Reading) (table : List String) : List String :=
  r.bodyNames table ++ (r.order.map Order.column).toList

def modified (r : Reading) : Query.Modifier → Except Fault Reading
  | .fetch => .ok { r with fetching := true }
  | .limit v => do .ok { r with limit := some (← parseLimit v) }
  | .sort v => do .ok { r with order := some (← Order.parse v) }
  | .populate _ | .connection _ | .intercept _ _ => .ok r

def modifiedAll (r : Reading) : List Query.Modifier → Except Fault Reading
  | [] => .ok r
  | m :: rest => do (← r.modified m).modifiedAll rest

end Reading

/-- What an operation with modifiers is read as. -/
def readingOf (model : Model) (op : Operation) (modifiers : List Query.Modifier) : Except Fault Reading := do
  (← op.reading model).modifiedAll modifiers

/-! ## Shapes and outlines -/

/-- The clause of an operation on all rows that meet some tests, or on the one that does. -/
def whereOutline (one qualified : Bool) (tests : List Test.Variant) : Sql :=
  if one then singleOutline qualified tests else clauseOutline tests

/-- **The shape of a call**: everything about it but its names and values. -/
structure Shape where
  kind : Kind
  qualified : Bool
  columns : Nat
  rows : Nat
  selected : Option Nat
  tests : List Test.Variant
  fetching : Bool
  direction : Option (Option Direction)
  limit : Option Nat
  deriving DecidableEq

namespace Shape

variable (s : Shape)

def table : Sql := tableOutline s.qualified

def conditions (one : Bool) : Sql := whereOutline one s.qualified s.tests

/-- An update of the rows, or of the one row, that meet the conditions; without columns to set, what is read
in its place. -/
def updating (one : Bool) : Sql :=
  (if s.columns = 0 then [.keyword .SELECT, .mark .star, .keyword .FROM] ++ s.table
    else .keyword .UPDATE :: s.table ++ .keyword .SET :: assignmentsOutline s.columns)
  ++ s.conditions one

/-- The outline of what an operation writes. -/
def body : Sql :=
  let columns := parenthesized (commas s.columns [.name ""])
  let values := valuesOutline s.columns s.rows
  match s.kind with
  | .create =>
    [.keyword .INSERT, .keyword .INTO] ++ s.table
      ++ (if s.columns = 0 then [.keyword .DEFAULT, .keyword .VALUES]
        else columns ++ .keyword .VALUES :: values)
  | .createEach =>
    [.keyword .INSERT, .keyword .INTO] ++ s.table
      ++ (if s.columns = 0 then [.keyword .VALUES] else columns ++ .keyword .VALUES :: values)
  | .find => .keyword .SELECT :: selectionOutline s.selected ++ .keyword .FROM :: s.table ++ s.conditions false
  | .findOne =>
    .keyword .SELECT :: selectionOutline s.selected ++ .keyword .FROM :: s.table ++ s.conditions true
  | .update => s.updating false
  | .updateOne => s.updating true
  | .destroy => [.keyword .DELETE, .keyword .FROM] ++ s.table ++ s.conditions false
  | .destroyOne => [.keyword .DELETE, .keyword .FROM] ++ s.table ++ s.conditions true

/-- Whether the statement reads and does nothing else. -/
def reads : Bool :=
  match s.kind with
  | .find | .findOne => true
  | .update | .updateOne => s.columns = 0
  | _ => false

def returning : Sql := if s.fetching && !s.reads then [.keyword .RETURNING, .mark .star] else []

def ordering : Sql :=
  match s.direction with
  | none => []
  | some direction => orderOutline direction

def limiting : Sql :=
  match s.limit with
  | none => []
  | some limit => [.keyword .LIMIT, .number limit]

/-- **The outline of a call's text**: nothing but its shape goes into it. -/
def outline : Sql := s.body ++ s.returning ++ s.ordering ++ s.limiting

end Shape

def Reading.shape (r : Reading) (schema : Value) : Shape where
  kind := r.kind
  qualified := schema.holds
  columns := r.written.length
  rows := r.rows
  selected := r.selected.map List.length
  tests := r.conditions.map fun c => c.test.variant
  fetching := r.fetching
  direction := r.order.map Order.direction
  limit := r.limit

end Operation

end ModelStore

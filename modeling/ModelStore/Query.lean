import ModelStore.Query.Order
import ModelStore.Query.Statement

/-!
# Queries

A query is a statement in the making. An operation of a model gives its text and arguments; *modifiers*
then set what else there is to set, in any order: whether results are fetched, a limit, an order, a
population, a connection of the caller's own, handlers of storage errors. `Query.build` makes the
statement of it.

A query runs once. `Query.begin` gives the statement to run and marks the query as running; from then on
modifiers and further runs are refused. A modifier that is refused changes nothing.
-/

namespace ModelStore

structure Query where
  model : Option Model
  schema : Option String
  /-- The text of the statement; none if there is nothing to write. -/
  sql : Option Sql
  /-- What is read instead when there is nothing to write and results are wanted. -/
  lookup : Option Sql
  arguments : List Value
  /-- Whether fetching makes the statement return the rows it touched. -/
  returning : Bool
  mode : Mode
  /-- The mode when results are fetched. -/
  fetchMode : Mode
  single : Bool
  fetching : Bool
  limit : Option Nat
  order : Option Order
  connection : Option Connection
  population : Option Populating
  interceptors : Association Handler
  stage : Stage

namespace Query

/-- A query that no modifier has touched. -/
def plain (model : Option Model) (sql : Option Sql) (arguments : List Value) (mode fetchMode : Mode) :
    Query where
  model := model
  schema := none
  sql := sql
  lookup := none
  arguments := arguments
  returning := true
  mode := mode
  fetchMode := fetchMode
  single := false
  fetching := false
  limit := none
  order := none
  connection := none
  population := none
  interceptors := []
  stage := .building

/-! ## Modifiers -/

/-- Refuses what comes too late. -/
def requireBuilding (q : Query) : Except Fault Unit :=
  if q.stage = .building then .ok () else .error (.refused (.spent q.stage))

/-- The population of an attribute's relation in a query. Without a model there is no such attribute, and without a
registry nowhere to look for the related one. -/
def plan (q : Query) (registry : Option Registry) (name : Value) : Except Fault Populating :=
  match q.model, registry with
  | some model, some registry =>
    if !name.isKey then .error (.misused .kind)
    else match name, (model.attribute? name).bind Attribute.relation with
      | .text relation, some targetName => do
        let target ← registry.find (.text targetName)
        let schema := match q.schema with
          | some schema => Value.text schema
          | none => .null
        .ok ⟨relation, target, Sql.tableName (.text target.table) schema⟩
      | _, _ => .error (.refused (.notRelation name model.name))
  | _, _ => .error (.refused .populateWithoutModel)

/-- Interceptors with a handler set for some codes. -/
def intercepting (interceptors : Association Handler) (handler : Handler) :
    List String → Association Handler
  | [] => interceptors
  | code :: rest => intercepting (interceptors.set code handler) handler rest

inductive Modifier
  | fetch
  | limit (v : Value)
  | sort (v : Value)
  | populate (name : Value)
  | connection (c : Option Connection)
  | intercept (kind : Value) (offer : Offer)

/-- Applies a modifier to a query that may still be changed. -/
def Modifier.apply (registry : Option Registry) (q : Query) : Modifier → Except Fault Query
  | fetch => .ok { q with fetching := true }
  | limit v => do .ok { q with limit := some (← parseLimit v) }
  | sort v => do .ok { q with order := some (← Order.parse v) }
  | populate name => do .ok { q with population := some (← q.plan registry name) }
  | connection c => .ok { q with connection := c }
  | intercept kind offer => do
    let handler ← offer.check
    .ok { q with interceptors := intercepting q.interceptors handler (Violation.codesOf kind) }

/-- Applies a modifier. -/
def modify (registry : Option Registry) (q : Query) (m : Modifier) : Except Fault Query := do
  q.requireBuilding
  m.apply registry q

/-- A query that has started is not modified any more, whatever the modifier. -/
theorem modify_of_started {q : Query} (h : q.stage ≠ .building) (registry : Option Registry) (m : Modifier) :
    q.modify registry m = .error (.refused (.spent q.stage)) := by
  simp [modify, requireBuilding, h, bind, Except.bind]

/-! ## The statement -/

/-- The clause of the order, if there is one. -/
def orderSql (q : Query) : Sql :=
  match q.order with
  | some order => order.sql
  | none => []

/-- The clause of the limit, if there is one. -/
def limitSql (q : Query) : Sql :=
  match q.limit with
  | some limit => ModelStore.limitSql limit
  | none => []

/-- What is made of the answer. -/
def finalMode (q : Query) : Mode := if q.fetching then q.fetchMode else q.mode

/-- The text before order and limit: what is written, with the rows returned if they are fetched; or what
is read in its place. -/
def body? (q : Query) : Option Sql :=
  match q.sql with
  | some sql =>
    some (if q.fetching && q.returning then
      sql ++ [.blank, .keyword .RETURNING, .blank, .mark .star] else sql)
  | none => if q.finalMode = .raw then none else q.lookup

/-- The text with order and limit. -/
def text? (q : Query) : Option Sql := q.body?.map fun sql => sql ++ q.orderSql ++ q.limitSql

/-- The statement of a query as it is now. -/
def build (q : Query) : Statement where
  sql := q.text?.map Sql.render
  arguments := q.arguments
  model := q.model
  mode := q.finalMode
  single := q.single
  population := q.population
  interceptors := q.interceptors
  connection := q.connection

/-! ## Running once -/

/-- The statement to run and the query while it runs. -/
def begin (q : Query) : Except Fault (Statement × Query) := do
  q.requireBuilding
  .ok (q.build, { q with stage := .executing })

/-- A query that has started does not start again. -/
theorem begin_of_started {q : Query} (h : q.stage ≠ .building) :
    q.begin = .error (.refused (.spent q.stage)) := by
  simp [begin, requireBuilding, h, bind, Except.bind]

/-- The query after it has run, however that ended. -/
def settle (q : Query) : Query := { q with stage := .settled }

end Query
end ModelStore

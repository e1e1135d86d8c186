import ModelStore.Query
import ModelStore.Criteria
import ModelStore.Write.Defaults
import ModelStore.Write.Insert
import ModelStore.Write.Update

/-!
# Operations of a model

What can be asked of a model's table: to create records, to find, update or destroy those that meet some
criteria, all of them or just one. Each operation is a query whose text is put together here; nothing is
sent. Criteria and values that are refused are refused here.

*An update that sets nothing writes nothing*: it has no text, but if its results are wanted, the rows it
would have touched are read instead.
-/

namespace ModelStore

namespace Model

/-- The model's table in a schema, as written. -/
def tableSql (model : Model) (schema : Value) : Sql := Sql.tableName (.text model.table) schema

/-- The query of an operation; the schema has to be a text if it is given. -/
def query (model : Model) (schema : Value) (sql : Option Sql) (arguments : List Value)
    (mode fetchMode : Mode) : Except Fault Query :=
  match Attribute.optionalText schema with
  | .ok name => .ok { Query.plain (some model) sql arguments mode fetchMode with schema := name }
  | .error problem => .error (.invalid [⟨["schema_name"], problem⟩])

/-! ## Creating -/

/-- `INSERT INTO` a table. -/
def insertInto (model : Model) (schema : Value) : Sql :=
  Sql.keywords [.INSERT, .INTO] ++ .blank :: model.tableSql schema

/-- An insertion of columns and values. -/
def insertSql (model : Model) (schema : Value) (parts : Insert.Parts) : Sql :=
  model.insertInto schema ++ .blank :: parts.columns ++ [.blank, .keyword .VALUES, .blank]
    ++ parts.values

/-- Creates one record. If no column is given and none is filled in, storage fills in all of them. -/
def create (model : Model) (given schema : Value) : Except Fault Query := do
  let record := model.fill .creating (← given.entries)
  let built := Insert.build model 0 (.list [.map record])
  let parts ← built.outcome
  let sql := if parts.columns.isEmpty then
      model.insertInto schema ++ .blank :: Sql.keywords [.DEFAULT, .VALUES]
    else model.insertSql schema parts
  model.query schema (some sql) built.arguments .raw .single

/-- Creates several records by one statement; for none there is nothing to write. -/
def createEach (model : Model) (given schema : Value) : Except Fault Query := do
  let rows ← (← given.items).mapM fun v => do .ok (model.fill .creating (← v.entries))
  if rows.isEmpty then model.query schema none [] .raw .rows
  else
    let built := Insert.build model 0 (.list (rows.map .map))
    let parts ← built.outcome
    model.query schema (some (model.insertSql schema parts)) built.arguments .raw .rows

/-! ## Finding -/

/-- The columns to select: all, or those given. -/
def selection (select : Value) : Except Fault Sql :=
  if !select.holds then .ok [.mark .star]
  else do .ok (Sql.listed ((← select.items).map fun column => [.name column.plain]))

/-- `SELECT` some columns `FROM` a table. -/
def selectFrom (columns table : Sql) : Sql :=
  .keyword .SELECT :: .blank :: columns ++ .blank :: .keyword .FROM :: .blank :: table

/-- Finds all records that meet the criteria. -/
def find (model : Model) (criteria select schema : Value) : Except Fault Query := do
  let columns ← selection select
  let conditions ← Criteria.parse criteria
  let sql := Sql.spaced [selectFrom columns (model.tableSql schema), Criteria.clause 0 conditions]
  let q ← model.query schema (some sql) (Criteria.operands conditions) .rows .rows
  .ok { q with returning := false }

/-- Finds all records that meet the criteria, in an order and up to a limit if these are given. -/
def findSorted (model : Model) (criteria select schema sort limit : Value) : Except Fault Query := do
  let q ← model.find criteria select schema
  let order ← if sort.isNull then .ok none else (Order.parse sort).map some
  let limit ← if limit.isNull then .ok none else (parseLimit limit).map some
  .ok { q with order := order, limit := limit }

/-- Finds the one record that meets the criteria. -/
def findOne (model : Model) (criteria select schema : Value) : Except Fault Query := do
  let columns ← selection select
  let conditions ← Criteria.parse criteria
  let table := model.tableSql schema
  let sql := Sql.spaced [selectFrom columns table, Criteria.singleClause table 0 conditions]
  let q ← model.query schema (some sql) (Criteria.operands conditions) .single .single
  .ok { q with returning := false, single := true }

/-! ## Updating -/

/-- The rows that an operation is about: those that meet the criteria, or the one that does. -/
def whereClause (model : Model) (schema : Value) (one : Bool) (bound : Nat)
    (conditions : List Condition) : Sql :=
  if one then Criteria.singleClause (model.tableSql schema) bound conditions
  else Criteria.clause bound conditions

/-- Updates the records that meet the criteria, or the one that does, which is then always fetched. -/
def updating (model : Model) (one : Bool) (criteria given schema : Value) : Except Fault Query := do
  let record := model.fill .changing (← given.entries)
  let built := Update.build model 0 record
  let assignments ← built.outcome
  let conditions ← Criteria.parse criteria
  let table := model.tableSql schema
  let clause := model.whereClause schema one built.arguments.length conditions
  let update := Sql.spaced
    [.keyword .UPDATE :: .blank :: table ++ .blank :: .keyword .SET :: .blank :: assignments, clause]
  let q ← model.query schema (if record.isEmpty then none else some update)
    (built.arguments ++ Criteria.operands conditions) (if one then .single else .raw)
    (if one then .single else .rows)
  .ok { q with
    lookup := some (Sql.spaced [selectFrom [.mark .star] table, clause]), single := one, fetching := one }

/-- Updates all records that meet the criteria. -/
def update (model : Model) : (criteria given schema : Value) → Except Fault Query := model.updating false

/-- Updates the one record that meets the criteria. -/
def updateOne (model : Model) : (criteria given schema : Value) → Except Fault Query :=
  model.updating true

/-! ## Destroying -/

/-- Destroys the records that meet the criteria, or the one that does. -/
def destroying (model : Model) (one : Bool) (criteria schema : Value) : Except Fault Query := do
  let conditions ← Criteria.parse criteria
  let sql := Sql.spaced
    [Sql.keywords [.DELETE, .FROM] ++ .blank :: model.tableSql schema,
      model.whereClause schema one 0 conditions]
  let q ← model.query schema (some sql) (Criteria.operands conditions) .raw
    (if one then .single else .rows)
  .ok { q with single := one }

/-- Destroys all records that meet the criteria. -/
def destroy (model : Model) : (criteria schema : Value) → Except Fault Query := model.destroying false

/-- Destroys the one record that meets the criteria. -/
def destroyOne (model : Model) : (criteria schema : Value) → Except Fault Query := model.destroying true

end Model

/-- A statement that a caller writes out. It belongs to no model, and nothing is made of its rows. -/
def Query.native (sql arguments : Value) : Except Fault Query := do
  let arguments ← if arguments.holds then arguments.items else .ok []
  match Attribute.optionalText sql with
  | .ok text =>
    .ok { Query.plain none (text.map fun s => [.verbatim s]) arguments .raw .rows with returning := false }
  | .error problem => .error (.invalid [⟨["sql"], problem⟩])

end ModelStore

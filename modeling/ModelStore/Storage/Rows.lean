import ModelStore.Schema.Model
import ModelStore.Storage.Dialogue

/-!
# Rows that storage answers

A row is a mapping whose columns are texts. Whatever hands rows on from a database makes an outcome of
them by `Outcome.ofRows`, which reports every row that is no mapping and every column that is no text.
Bytes that are text count as it, so two columns of a row may turn out to be one: it keeps the place of the
first and gets the value of the second.
-/

namespace ModelStore

namespace Row

/-- What is wrong with the row at some place. -/
def issues (index : Nat) : Value → List Issue
  | .map es => es.filterMap fun entry => match Attribute.textSetting entry.1 with
    | .ok _ => none
    | .error problem =>
      some ⟨["rows", toString index, Model.locationOfKey entry.1, "[key]"], problem⟩
  | _ => [⟨["rows", toString index], "dict_type"⟩]

/-- A record with an entry of a row, under the column's text. -/
def withEntry (record : Record) (entry : Value × Value) : Record :=
  match Attribute.textSetting entry.1 with
  | .ok column => record.put (.text column) entry.2
  | .error _ => record

/-- A row as a record of texts and their values. -/
def record : Value → Record
  | .map es => es.foldl withEntry []
  | _ => []

end Row

/-- Rows as an outcome. -/
def Outcome.ofRows (rows : Value) (rowCount : Int) : Except Fault Outcome :=
  match rows.sequence? with
  | none => .error (.invalid [⟨["rows"], "list_type"⟩])
  | some rows =>
    let issues := (rows.mapIdx Row.issues).flatten
    if issues.isEmpty then .ok ⟨rows.map Row.record, rowCount⟩ else .error (.invalid issues)

end ModelStore

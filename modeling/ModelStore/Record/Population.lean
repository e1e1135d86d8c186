import ModelStore.Schema.Model
import ModelStore.Value.Sameness

/-!
# Population

A relation attribute holds the primary key of another model's record. Population looks up the records
that a set of records points to and puts each in the place of its key: a left join on the primary key.
Keys are compared by value; a key without a record becomes null. If several records have one key, the
last of them counts.

Both halves go through the records one by one (`withKeyOf`, `populate`), and stop at the first that they
cannot deal with.
-/

namespace ModelStore.Population

/-! ## The keys to look up -/

/-- The keys found so far with the one that a record holds in a column, unless that is null or one of
them. -/
def withKeyOf (column : String) (keys : List Value) (record : Record) : Except Fault (List Value) := do
  match record.get? (.text column) with
  | none => .ok keys
  | some key =>
    if key.isNull then .ok keys
    else if ← key.isIn keys then .ok keys
    else .ok (keys ++ [key])

/-- The distinct keys that records hold in a column, in order of appearance. -/
def foreignKeys (records : List Record) (column : String) : Except Fault (List Value) :=
  records.foldlM (withKeyOf column) []

/-- The distinct keys in a column of whatever should be a run of records. -/
def foreignKeysOf (records : Value) (column : String) : Except Fault (List Value) := do
  (← records.items).foldlM (fun keys record => do withKeyOf column keys (← record.mapping)) []

/-! ## The join -/

/-- The records found so far with another one under its primary key. -/
def withRelated (found : Record) (related : Value) : Except Fault Record := do
  let key ← related.at? (.text primaryKey)
  if key.isKey then .ok (found.put key related) else .error (.misused .kind)

/-- A record with the key in a column replaced by the record it points to. -/
def populate (column : String) (found record : Record) : Except Fault Record :=
  let key := (record.get? (.text column)).getD .null
  if key.isKey then .ok (record.put (.text column) ((found.get? key).getD .null))
  else .error (.misused .kind)

/-- Replaces the keys in a column by the records they point to. -/
def merge (records : List Record) (column : String) (related : List Record) :
    Except Fault (List Record) := do
  let found ← (related.map Value.map).foldlM withRelated []
  records.mapM (populate column found)

/-- Replaces the keys in a column of whatever should be a run of records; a run of one kind stays of that
kind. -/
def mergeInto (records : Value) (column : String) (related : Value) : Except Fault Value := do
  let found ← (← related.items).foldlM withRelated []
  let populated ← (← records.items).mapM fun record => do
    .ok (Value.map (← populate column found (← record.mapping)))
  .ok (records.withItems populated)

end ModelStore.Population

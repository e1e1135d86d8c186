import ModelStore.Schema.Model

/-!
# What is filled in before a record is written

A caller gives some columns of a record. Before it is written, each attribute of the model is settled in
turn: on creation, a column that is missing gets its declared default; and a column that is then still
missing (on creation) or null gets what its attribute supplies by itself, which is the time of sending
for the automatic timestamps, nothing for numbers that storage assigns, and else the zero of the type.

`Attribute.settle` is the rule for one column, and `Model.fill` applies it to all. A column that is not
missing and not null is never touched, and no column is ever taken away.
-/

namespace ModelStore

/-- Whether a record is being created or changed. -/
inductive Occasion
  | creating
  | changing
  deriving DecidableEq, Repr, Inhabited

namespace Attribute

/-- What an attribute supplies by itself. A time of creation is supplied on creation only. -/
def supply? (occasion : Occasion) (a : Attribute) : Option Value :=
  if a.autoCreatedAt then (if occasion = .creating then some .pending else none)
  else if a.autoUpdatedAt then some .pending
  else if a.autoIncrement then none
  else a.zero?

/-- What a column holds in the end, given what the caller put there; `none` for a column left out. -/
def settle (occasion : Occasion) (a : Attribute) (given : Option Value) : Option Value :=
  match occasion, given with
  | .changing, none => none
  | .creating, none => match a.declaredDefault with
    | none => a.supply? .creating
    | some v => if v.isNull then some ((a.supply? .creating).getD v) else some v
  | occasion, some v => if v.isNull then some ((a.supply? occasion).getD v) else some v

end Attribute

namespace Model

/-- Settles one column of a record. -/
def fillColumn (occasion : Occasion) (record : Record) (entry : String × Attribute) : Record :=
  let column := Value.text entry.1
  match entry.2.settle occasion (record.get? column) with
  | some v => record.put column v
  | none => record

/-- Settles the columns of all attributes, in order. -/
def fill (model : Model) (occasion : Occasion) (record : Record) : Record :=
  model.attributes.foldl (fillColumn occasion) record

end Model
end ModelStore

/-!
# The life of a query

A query is put together, then runs once, then is over. It only ever moves forward.
-/

namespace ModelStore

inductive Stage
  | building
  | executing
  | settled
  deriving DecidableEq, Repr, Inhabited

/-- A stage's name in messages. -/
def Stage.name : Stage → String
  | building => "building"
  | executing => "executing"
  | settled => "settled"

end ModelStore

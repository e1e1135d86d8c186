import ModelStore.Query.Stage
import ModelStore.Value.Literal

/-!
# What can go wrong

Everything that fails, fails with a `Fault`, and a fault says what happened rather than how it reads:

* `refused`: this library declined a request, for one of the reasons of `Refusal`;
* `misused`: a value was put to a use that its kind does not allow;
* `invalid`: a model or attribute document does not have the required form;
* `engine`, `driver`, `custom`: storage, its driver or a caller's own code reported an error;
* `ambiguous`: a statement meant for one row met several;
* `intercepted`: an interceptor put a value in the place of a storage error;
* `worded`: an interceptor named a kind of fault, and the native error gave what it says;
* `cancelled`, `abandoned`: the work was called off. These two are not *ordinary*: nothing translates
  them, nothing recovers from them.

The wording of every message is here, in `Refusal.message` and `Fault.text`, and nowhere else.
-/

namespace ModelStore

/-! ## Refusals -/

/-- Why a request was declined. -/
inductive Refusal
  /-- Not a whole number from zero up to the largest that every client can hold. -/
  | limit (given : Value)
  /-- Not one or two words. -/
  | order (given : Value)
  /-- The second word is not a direction. -/
  | direction (given : Value)
  /-- Population of a query that belongs to no model. -/
  | populateWithoutModel
  | notRelation (name : Value) (model : String)
  | insertWithoutRows
  | unequalColumns (first other : List Value)
  | rowsWithoutColumns
  /-- Criteria that are a sequence. -/
  | criteriaShape (given : Value)
  /-- An operator mapping with other than one key. -/
  | operatorCount (column : Value) (given : Value)
  | unknownOperator (operator : Value)
  | unknownModel (name : String)
  | unknownAttribute (model name : String)
  /-- An interceptor's handler that is neither text, a fault nor a function. -/
  | handlerShape (given : Value)
  /-- A query is changed or run again after it started. -/
  | spent (stage : Stage)
  | unknownScheme (scheme : String)
  /-- What is registered under a name is neither text, a function nor a pool. -/
  | databaseShape
  | unknownConnection (name : String)
  deriving Repr, Inhabited

/-- What is said of an operator that there is none of. -/
def Refusal.aboutOperator (operator : String) : String :=
  "Unrecognised operator in criteria: " ++ operator

/-- What is said of a model that there is none of. -/
def Refusal.aboutModel (name : String) : String := "Model not found: " ++ name

/-- The wording of a refusal. -/
def Refusal.message : Refusal → String
  | limit given => "Limit must be a non-negative integer, got " ++ given.literal
  | order given => "Unexpected ORDER BY clause: " ++ given.literal
  | direction given => "Unexpected direction provided in ORDER BY clause: " ++ given.literal
  | populateWithoutModel => "populate() needs a model-bound query"
  | notRelation name model =>
    "`" ++ name.plain ++ "` is not a relation attribute of " ++ model
  | insertWithoutRows => "Cannot build an INSERT without rows"
  | unequalColumns first other =>
    "All rows inserted together must share the same columns: " ++ (Value.list first).literal ++ " != "
      ++ (Value.list other).literal
  | rowsWithoutColumns => "Cannot insert several rows without any column"
  | criteriaShape given => "Criteria must be a mapping or a primary key, got " ++ given.literal
  | operatorCount column given =>
    "Operator mapping for `" ++ column.plain ++ "` must have exactly one key, got " ++ given.literal
  | unknownOperator operator => aboutOperator operator.literal
  | unknownModel name => aboutModel name
  | unknownAttribute model name => "No such attribute for " ++ model ++ ": " ++ name
  | handlerShape given => "No handling for interceptor of this type yet: " ++ given.literal
  | spent stage =>
    "Query is " ++ stage.name ++ "; modifiers and execution are only allowed once, before it runs"
  | unknownScheme scheme => "Unsupported database scheme: " ++ scheme
  | databaseShape => "`database` should be a URL `str`, a method returning one, or a pool"
  | unknownConnection name => "No connection configured with name=`" ++ name ++ "`"

/-! ## Faults -/

/-- A use that a value's kind or content does not allow. -/
inductive Misuse
  | kind
  | key
  | index
  | member
  | content
  | overflow
  | arithmetic
  /-- A number that would fill all memory. -/
  | capacity
  deriving DecidableEq, Repr, Inhabited

/-- An error as storage or its driver reports it: a text, and up to three places for a native code. A
place that is `none` does not exist; one that is `some .null` is there and empty. -/
structure Report where
  message : String
  code : Option Value
  sqlstate : Option Value
  pgcode : Option Value
  deriving Repr, Inhabited

/-- The first place that exists and is not empty, in the order code, SQL state, engine code. -/
def Report.firstCode (report : Report) : Option Value :=
  [report.code, report.sqlstate, report.pgcode].firstM fun place =>
    place.filter fun v => !v.isNull

/-- A part of a document and what is wrong with it. -/
structure Issue where
  location : List String
  problem : String
  deriving DecidableEq, Repr, Inhabited

/-- The kinds of fault that an interceptor may name to have the native error put into one. -/
inductive Family
  | library
  | argument
  | criteria
  | operator
  | unknownModel
  | handler
  | spent
  | engine
  | ambiguous
  | intercepted
  | custom
  deriving DecidableEq, Repr, Inhabited

inductive Fault
  | refused (why : Refusal)
  | misused (how : Misuse)
  | invalid (issues : List Issue)
  | engine (report : Report)
  | driver (report : Report)
  | custom (message : String)
  /-- What a database server said, as its driver hands it on. -/
  | server (message : String) (sqlstate : Value)
  | ambiguous (message : String) (code : Value)
  | intercepted (value : Value)
  | worded (family : Family) (text : String)
  | cancelled (message : String)
  | abandoned
  /-- A fault together with the one it was raised for. -/
  | because (fault cause : Fault)
  deriving Repr, Inhabited

namespace Fault

/-- What a fault is without its cause. -/
def bare : Fault → Fault
  | because fault _ => fault.bare
  | fault => fault

/-- Nothing is registered under a name. -/
def noConnection (name : String) : Fault := because (refused (.unknownConnection name)) (misused .key)

/-- All faults but the two that call work off. -/
def isOrdinary : Fault → Bool
  | cancelled _ => false
  | abandoned => false
  | because fault _ => fault.isOrdinary
  | _ => true

/-- A fault's text. -/
def text : Fault → String
  | refused why => why.message
  | misused _ => ""
  | invalid _ => ""
  | engine report => report.message
  | driver report => report.message
  | custom message => message
  | server message _ => message
  | ambiguous message _ => message
  | intercepted value => value.plain
  | worded _ text => text
  | cancelled message => message
  | abandoned => ""
  | because fault _ => fault.text

/-- The name of the kind of an error that storage, its driver or a caller's own code reported. -/
def reportedName? : Fault → Option String
  | engine _ => some "StorageEngineError"
  | driver _ => some "DriverError"
  | custom _ => some "CustomError"
  | cancelled _ => some "Cancelled"
  | ambiguous _ _ => some "AmbiguousMatch"
  | because fault _ => fault.reportedName?
  | _ => none

/-- A reported error written out: its name, and its text in quotes. -/
def literal (fault : Fault) : String :=
  fault.reportedName?.getD "" ++ "(" ++ (Value.text fault.text).literal ++ ")"

/-- The native code that a fault carries, as text. -/
def code? : Fault → Option String
  | engine report => report.firstCode.map Value.plain
  | driver report => report.firstCode.map Value.plain
  | server _ sqlstate => if sqlstate.isNull then none else some sqlstate.plain
  | ambiguous _ code => if code.isNull then none else some code.plain
  | because fault _ => fault.code?
  | _ => none

end Fault

/-- The fault of a family that a native error is put into. Most take over its text; one that is about a
model, or about an operator, takes the error for that. -/
def Family.fault (family : Family) (native : Fault) : Fault :=
  match family with
  | engine => .engine ⟨native.text, some .null, none, none⟩
  | ambiguous => .ambiguous native.text .null
  | intercepted => .intercepted (.text native.text)
  | custom => .custom native.text
  | operator => .worded operator (Refusal.aboutOperator native.literal)
  | unknownModel => .worded unknownModel (Refusal.aboutModel native.text)
  | family => .worded family native.text

end ModelStore

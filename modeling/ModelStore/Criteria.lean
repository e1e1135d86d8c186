import ModelStore.Schema.Model
import ModelStore.Sql.Arguments

/-!
# Criteria

Criteria say which rows a query is about. Nothing (`null`, or no entries) means the whole table; a single
value is a primary key; a mapping is a conjunction of conditions, one per column, in its order. They are
read into a list of `Condition`s first, and only if that succeeds are the conditions written as a `WHERE`
clause, so criteria that are refused bind nothing.

A condition binds its `operands`, at most one, and `Condition.sql` refers to it as the next placeholder.

`Criteria.clause` and `Criteria.operands` say what is written and bound for conditions that are known.
`Criteria.compile` does the writing and the binding, one condition after the other, on a list of arguments
that others have bound some of already.
-/

namespace ModelStore

/-! ## Conditions -/

/-- The order comparisons. -/
inductive Comparison
  | less
  | greater
  | atMost
  | atLeast
  deriving DecidableEq, Repr, Inhabited

def Comparison.mark : Comparison → Sql.Mark
  | less => .less
  | greater => .greater
  | atMost => .atMost
  | atLeast => .atLeast

/-- A comparison's name in criteria. -/
def Comparison.name (c : Comparison) : String := c.mark.text

/-- What is asked of a column. -/
inductive Test
  | equals (value : Value)
  | notEquals (value : Value)
  | among (values : List Value)
  | notAmong (values : List Value)
  | isNull
  | isNotNull
  | compares (comparison : Comparison) (value : Value)
  deriving Repr, Inhabited

structure Condition where
  column : String
  test : Test
  deriving Repr, Inhabited

namespace Condition

/-- The values that a condition binds. A run of values is bound as one list. -/
def operands (c : Condition) : List Value :=
  match c.test with
  | .equals v | .notEquals v | .compares _ v => [v]
  | .among vs | .notAmong vs => [.list vs]
  | .isNull | .isNotNull => []

/-- A condition after `bound` arguments. -/
def sql (bound : Nat) (c : Condition) : Sql :=
  let operand : Sql.Token := .placeholder (bound + 1)
  let compared (m : Sql.Mark) : Sql := [.name c.column, .blank, .mark m, .blank, operand]
  let member : Sql :=
    [.name c.column, .blank, .mark .equal, .blank, .keyword .ANY] ++ Sql.parenthesized [operand]
  match c.test with
  | .equals _ => compared .equal
  | .notEquals _ => compared .notEqual
  | .compares comparison _ => compared comparison.mark
  | .among _ => member
  | .notAmong _ => [.keyword .NOT, .blank] ++ Sql.parenthesized member
  | .isNull => [.name c.column, .blank] ++ Sql.keywords [.IS, .NULL]
  | .isNotNull => [.name c.column, .blank] ++ Sql.keywords [.IS, .NOT, .NULL]

/-! ## Reading -/

/-- An operator of criteria. -/
inductive Operator
  | differs
  | compares (comparison : Comparison)
  deriving DecidableEq, Repr

/-- The operator of a name. -/
def operator? : Value → Option Operator
  | .text "<" => some (.compares .less)
  | .text ">" => some (.compares .greater)
  | .text "<=" => some (.compares .atMost)
  | .text ">=" => some (.compares .atLeast)
  | .text "!=" => some .differs
  | _ => none

/-- The test of a value under an operator. -/
def Operator.test (operand : Value) : Operator → Test
  | compares comparison => .compares comparison operand
  | differs =>
    if operand.isNull then .isNotNull
    else match operand.sequence? with
      | some values => .notAmong values
      | none => .notEquals operand

/-- The test that a value asks for: null asks for null, a sequence for one of its items, a mapping of one
operator for what the operator says, all else for itself. -/
def test? (column : Value) : Value → Except Fault Test
  | .null => .ok .isNull
  | .list values => .ok (.among values)
  | .tuple values => .ok (.among values)
  | .map [(operator, operand)] => match operator? operator with
    | some op => .ok (op.test operand)
    | none => .error (.refused (.unknownOperator operator))
  | .map entries => .error (.refused (.operatorCount column (.map entries)))
  | value => .ok (.equals value)

/-- The condition of an entry of criteria. Only text names a column. -/
def parse (column value : Value) : Except Fault Condition := do
  let test ← test? column value
  match Attribute.textSetting column with
  | .ok name => .ok ⟨name, test⟩
  | .error problem => .error (.invalid [⟨["column"], problem⟩])

end Condition

namespace Criteria

/-- The conditions of criteria; none means the whole table. -/
def parse : Value → Except Fault (List Condition)
  | .null => .ok []
  | .map entries => entries.mapM fun entry => Condition.parse entry.1 entry.2
  | .list values => .error (.refused (.criteriaShape (.list values)))
  | .tuple values => .error (.refused (.criteriaShape (.tuple values)))
  | key => .ok [⟨primaryKey, .equals key⟩]

/-! ## Writing -/

/-- The values that conditions bind, in order. -/
def operands (conditions : List Condition) : List Value := conditions.flatMap Condition.operands

/-- The conditions after `bound` arguments, each after those of the ones before it. -/
def parts (bound : Nat) : List Condition → List Sql
  | [] => []
  | c :: rest => c.sql bound :: parts (bound + c.operands.length) rest

/-- The clause of a conjunction; none for no conditions. -/
def clause (bound : Nat) (conditions : List Condition) : Sql :=
  if conditions.isEmpty then []
  else [.keyword .WHERE, .blank]
    ++ Sql.joined [.blank, .keyword .AND, .blank] (parts bound conditions)

/-- The clause for the row whose primary key is *the* key that another clause selects. -/
def keyClause (table clause : Sql) : Sql :=
  let key : Sql := [.name primaryKey]
  let selected := Sql.spaced
    [[.keyword .SELECT, .blank] ++ key ++ [.blank, .keyword .FROM, .blank] ++ table, clause]
  [.keyword .WHERE, .blank] ++ key ++ [.blank, .mark .equal, .blank] ++ Sql.parenthesized selected

/-- The clause that holds for one row at most: the row whose primary key is *the* key selected by the
conditions, which storage refuses to answer if they select several. -/
def singleClause (table : Sql) (bound : Nat) (conditions : List Condition) : Sql :=
  keyClause table (clause bound conditions)

end Criteria

/-! ## Binding as one goes -/

/-- Writes a condition and binds its operands. -/
def Condition.write (c : Condition) : Binding Sql := do
  let bound := (← get).length
  modify fun arguments => arguments ++ c.operands
  return c.sql bound

namespace Criteria

/-- Compiles criteria to their clause. -/
def compile (criteria : Value) : Binding Sql := do
  match ← parse criteria with
  | [] => return []
  | conditions =>
    let parts ← conditions.mapM Condition.write
    return [.keyword .WHERE, .blank] ++ Sql.joined [.blank, .keyword .AND, .blank] parts

/-- Compiles criteria to the clause for the one row that meets them. -/
def compileSingle (table : Sql) (criteria : Value) : Binding Sql := do
  return keyClause table (← compile criteria)

end Criteria
end ModelStore

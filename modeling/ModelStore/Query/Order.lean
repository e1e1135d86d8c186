import ModelStore.Fault
import ModelStore.Sql
import ModelStore.Text.Blank

/-!
# Order and limit of a query

The order of a query is given as text: a column, or a column and a direction. The direction is read
without regard to case, where the long s counts as an s too, since its capital is one. The limit is a
whole number that every client can hold exactly.
-/

namespace ModelStore

inductive Direction
  | ascending
  | descending
  deriving DecidableEq, Repr, Inhabited

def Direction.keyword : Direction → Sql.Keyword
  | ascending => .ASC
  | descending => .DESC

/-- A character's capital, as far as the letters of directions go. -/
def directionLetter (c : Char) : Char := if c.toNat = 0x17F then 'S' else c.toUpper

/-- The direction of a word. -/
def Direction.ofWord? (word : String) : Option Direction :=
  let capitals := String.ofList (word.toList.map directionLetter)
  if capitals = "ASC" then some .ascending
  else if capitals = "DESC" then some .descending
  else none

structure Order where
  column : String
  direction : Option Direction
  deriving DecidableEq, Repr, Inhabited

namespace Order

/-- The order that a value describes. -/
def parse (v : Value) : Except Fault Order :=
  let words := match v with
    | .text s => Text.words s
    | _ => []
  match words with
  | [column] => .ok ⟨column, none⟩
  | [column, word] => match Direction.ofWord? word with
    | some direction => .ok ⟨column, some direction⟩
    | none => .error (.refused (.direction v))
  | _ => .error (.refused (.order v))

/-- The clause of an order, with the blank before it. -/
def sql (order : Order) : Sql :=
  [.blank, .keyword .ORDER, .blank, .keyword .BY, .blank, .name order.column]
    ++ (match order.direction with
      | none => []
      | some direction => [.blank, .keyword direction.keyword])

end Order

/-- The largest whole number up to which every client can hold all of them. -/
def maxLimit : Int := Int.pow 2 53 - 1

/-- The limit that a value stands for. -/
def parseLimit : Value → Except Fault Nat
  | .int n => if 0 ≤ n ∧ n ≤ maxLimit then .ok n.toNat else .error (.refused (.limit (.int n)))
  | v => .error (.refused (.limit v))

/-- The clause of a limit, with the blank before it. -/
def limitSql (limit : Nat) : Sql := [.blank, .keyword .LIMIT, .blank, .number limit]

end ModelStore

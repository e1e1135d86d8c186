import ModelStore.Moment
import ModelStore.Number.Decimal

/-!
# Values

What a caller hands over and what storage hands back is not typed in advance: a criterion, a row, a
default and a bound argument are all *values*. A value is a scalar, a sequence (a list or a tuple, which
differ only in how they are written and compared), an ordered mapping, or the marker `pending`, which
stands for "the time at which the statement is sent" until that time is known.

Sequences and mappings nest, so every function over values comes with one for lists of values and one for
lists of entries, by structural recursion through all three.
-/

namespace ModelStore

inductive Value
  | null
  | bool (b : Bool)
  | int (n : Int)
  | float (x : Binary64)
  | decimal (d : Decimal)
  | text (s : String)
  | bytes (bs : List UInt8)
  | moment (t : Moment)
  | list (items : List Value)
  | tuple (items : List Value)
  | map (entries : List (Value × Value))
  | pending
  deriving Repr, Inhabited

/-- A row or a record: columns and their values, in order. -/
abbrev Record := List (Value × Value)

namespace Value

/-- The one value that stands for "no value". -/
def isNull : Value → Bool
  | null => true
  | _ => false

/-- The marker that is resolved when a statement is sent. -/
def isPending : Value → Bool
  | pending => true
  | _ => false

/-- The items of a list or a tuple. -/
def sequence? : Value → Option (List Value)
  | list items => some items
  | tuple items => some items
  | _ => none

/-- Empty text, empty bytes, empty sequences and mappings, zero of every kind, `false` and `null` do not
hold; all else does. -/
def holds : Value → Bool
  | null => false
  | bool b => b
  | int n => n != 0
  | float x => !x.isZero
  | decimal d => !d.isZero
  | text s => !s.isEmpty
  | bytes bs => !bs.isEmpty
  | moment _ => true
  | list items => !items.isEmpty
  | tuple items => !items.isEmpty
  | map entries => !entries.isEmpty
  | pending => true

/-- The number of items or entries; text counts characters. -/
def size? : Value → Option Nat
  | text s => some s.toList.length
  | bytes bs => some bs.length
  | list items => some items.length
  | tuple items => some items.length
  | map entries => some entries.length
  | _ => none

end Value
end ModelStore

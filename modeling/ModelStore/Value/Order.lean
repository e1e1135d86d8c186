import ModelStore.Fault
import ModelStore.Sorting
import ModelStore.Value.Equality

/-!
# Order of values

Columns are listed in order where a message shows two sets of them side by side. Numbers of all kinds are
in order among themselves, and so are texts (by code point), bytes, moments and tuples (by their first
items that differ). Values of different kinds are not in order at all; to ask is a misuse.

Not-a-number is before nothing and behind nothing. As a float it may be asked about all the same; where a
decimal takes part, the question is refused.
-/

namespace ModelStore

namespace ExactNumber

/-- How many digits a number has before its point, if its leading digit is not zero: below one they are
counted from the point on, downward. -/
def scale (x : ExactNumber) : Int := x.exponent + (Nat.toDigits 10 x.coefficient).length

/-- Order of magnitudes other than zero. Only those of one scale are multiplied out, and only so far that
their exponents agree. -/
def lessMagnitude (x y : ExactNumber) : Bool :=
  if x.scale = y.scale then
    x.coefficient * Nat.pow 10 (x.exponent - y.exponent).toNat
      < y.coefficient * Nat.pow 10 (y.exponent - x.exponent).toNat
  else x.scale < y.scale

/-- Order of finite numbers. -/
def less (x y : ExactNumber) : Bool :=
  match x.negative, y.negative with
  | true, false => true
  | false, true => false
  | true, true => y.lessMagnitude x
  | false, false =>
    if y.coefficient = 0 then false else if x.coefficient = 0 then true else x.lessMagnitude y

end ExactNumber

namespace Value

/-- Order of numbers; an infinite one lies beyond every finite one, not-a-number beside all. -/
def lessNumber (v w : Value) : Bool :=
  match v.finiteNumber?, w.finiteNumber? with
  | some x, some y => x.less y
  | some _, none => w.infinite? == some false
  | none, some _ => v.infinite? == some true
  | none, none => v.infinite? == some true && w.infinite? == some false

/-- Order of numbers, where a decimal is not compared with what is none. -/
def compareNumbers (v w : Value) : Except Fault Bool :=
  if (v.isDecimal || w.isDecimal) && (v.isNaN || w.isNaN) then .error (.misused .arithmetic)
  else .ok (v.lessNumber w)

mutual

/-- Whether a value comes before another. -/
def less : Value → Value → Except Fault Bool
  | text s, text t => .ok (s < t)
  | bytes bs, bytes cs => .ok (bs.map UInt8.toNat < cs.map UInt8.toNat)
  | moment s, moment t =>
    if s.offset.isSome == t.offset.isSome then .ok (s.instant < t.instant) else .error (.misused .kind)
  | tuple vs, tuple ws => lessItems vs ws
  | v, w => if v.isNumber && w.isNumber then v.compareNumbers w else .error (.misused .kind)

def lessItems : List Value → List Value → Except Fault Bool
  | [], [] => .ok false
  | [], _ :: _ => .ok true
  | _ :: _, [] => .ok false
  | v :: vs, w :: ws => if v.equal w then lessItems vs ws else less v w

end

/-- Values in order; equal ones stay as they were. -/
def inOrder (vs : List Value) : Except Fault (List Value) := Sorting.sort less vs

end Value
end ModelStore

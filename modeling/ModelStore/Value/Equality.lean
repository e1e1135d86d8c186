import ModelStore.Value

/-!
# Equality of values

Keys of mappings, foreign keys and columns are compared by value and not by kind: a whole number, a
float, a decimal and a truth value are equal if they stand for the same number, exactly (no rounding
takes place, so `0.1` as a float and `0.1` as a decimal differ). Texts equal texts, lists equal lists and
tuples tuples, item by item; mappings are equal if they hold equal entries in any order. Not-a-number
equals nothing, itself included.

Exactness is by a normal form: every finite number of any kind, floats included, is `± c · 10^e` with no
zero at the end of `c`, and that form is unique. A decimal of a huge exponent is never multiplied out.
-/

namespace ModelStore

/-- `± coefficient · 10^exponent`, where the coefficient does not end in zero; zero has every part zero. -/
structure ExactNumber where
  negative : Bool
  coefficient : Nat
  exponent : Int
  deriving DecidableEq, Repr

/-- The normal form of `± c · 10^e`. -/
def ExactNumber.ofParts (negative : Bool) (c : Nat) (e : Int) : ExactNumber :=
  let (c, e) := Decimal.reduced c e
  ⟨negative && c != 0, c, e⟩

/-- The normal form of `± m · 2^e`. -/
def ExactNumber.ofBinary (negative : Bool) (m : Nat) (e : Int) : ExactNumber :=
  if 0 ≤ e then .ofParts negative (m * Nat.pow 2 e.toNat) 0
  else .ofParts negative (m * Nat.pow 5 (-e).toNat) e

namespace Value

/-- A value is a number of some kind. -/
def isNumber : Value → Bool
  | bool _ | int _ | float _ | decimal _ => true
  | _ => false

def isDecimal : Value → Bool
  | decimal _ => true
  | _ => false

/-- Not-a-number, quiet or signaling. -/
def isNaN : Value → Bool
  | float .nan => true
  | decimal (.nan ..) => true
  | _ => false

/-- The signaling not-a-number. -/
def isSignaling : Value → Bool
  | decimal (.nan _ signaling _) => signaling
  | _ => false

/-- The number that a value stands for, if it stands for a finite one. -/
def finiteNumber? : Value → Option ExactNumber
  | bool b => some (.ofParts false b.toNat 0)
  | int n => some (.ofParts (n < 0) n.natAbs 0)
  | float (.finite negative m e) => some (.ofBinary negative m e)
  | decimal (.finite negative c e) => some (.ofParts negative c e)
  | _ => none

/-- The sign of an infinite number. -/
def infinite? : Value → Option Bool
  | float (.infinite negative) => some negative
  | decimal (.infinite negative) => some negative
  | _ => none

/-- Equality as numbers. -/
def sameNumber (v w : Value) : Bool :=
  match v.finiteNumber?, w.finiteNumber? with
  | some x, some y => x == y
  | _, _ => match v.infinite?, w.infinite? with
    | some x, some y => x == y
    | _, _ => false

mutual

/-- Equality by value. -/
def equal : Value → Value → Bool
  | null, null => true
  | pending, pending => true
  | text s, text t => s == t
  | bytes bs, bytes cs => bs == cs
  | moment s, moment t => s.same t
  | list vs, list ws => equalItems vs ws
  | tuple vs, tuple ws => equalItems vs ws
  | map es, map fs => es.length == fs.length && entriesWithin es fs
  | v, w => v.sameNumber w

def equalItems : List Value → List Value → Bool
  | [], [] => true
  | v :: vs, w :: ws => equal v w && equalItems vs ws
  | _, _ => false

/-- Every entry of the first mapping has an equal one in the second. -/
def entriesWithin : List (Value × Value) → List (Value × Value) → Bool
  | [], _ => true
  | (k, v) :: rest, entries =>
    entries.any (fun entry => equal k entry.1 && equal v entry.2) && entriesWithin rest entries

end

mutual

/-- A value that may be a key: lists and mappings change, so they may not, nor may a signaling
not-a-number, nor a tuple of any of these. -/
def isKey : Value → Bool
  | list _ => false
  | map _ => false
  | decimal (.nan _ signaling _) => !signaling
  | tuple items => areKeys items
  | _ => true

def areKeys : List Value → Bool
  | [] => true
  | v :: rest => isKey v && areKeys rest

end

/-- A value is one of the given ones. -/
def isAmong (v : Value) (vs : List Value) : Bool := vs.any fun w => w.equal v

end Value

/-! ## Records -/

namespace Record

/-- The value under a key. -/
def get? (record : Record) (key : Value) : Option Value :=
  (record.find? fun entry => entry.1.equal key).map (·.2)

/-- Whether there is a value under a key. -/
def has (record : Record) (key : Value) : Bool := record.any fun entry => entry.1.equal key

/-- Sets the value under a key: in place if the key is there (which then keeps its old spelling), at the
end otherwise. -/
def put (record : Record) (key value : Value) : Record :=
  match record with
  | [] => [(key, value)]
  | entry :: rest =>
    if entry.1.equal key then (entry.1, value) :: rest else entry :: put rest key value

end Record
end ModelStore

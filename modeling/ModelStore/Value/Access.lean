import ModelStore.Fault
import ModelStore.Value.Equality

/-!
# Taking values apart

Callers may hand over any value where a row, a list of rows or a list of columns is wanted. These are the
three ways of looking into one: as a run of items, as entries, and at one place. Each says what it does
with every kind of value, and refuses the rest as a misuse.
-/

namespace ModelStore.Value

/-- The items that a value yields one by one: characters of text, numbers of bytes, items of sequences,
keys of mappings. -/
def items : Value → Except Fault (List Value)
  | text s => .ok (s.toList.map fun c => .text (String.singleton c))
  | bytes bs => .ok (bs.map fun b => .int b.toNat)
  | list vs => .ok vs
  | tuple vs => .ok vs
  | map es => .ok (es.map (·.1))
  | _ => .error (.misused .kind)

/-- A list or tuple with other items; what is neither stays as it is. -/
def withItems (v : Value) (items : List Value) : Value :=
  match v with
  | list _ => list items
  | tuple _ => tuple items
  | v => v

/-- An item read as a pair of key and value. -/
def pair (v : Value) : Except Fault (Value × Value) := do
  match ← v.items with
  | [key, value] => if key.isKey then .ok (key, value) else .error (.misused .kind)
  | _ => .error (.misused .content)

/-- Adds entries to a record one pair after the other; a later value takes the place of an earlier one
of an equal key. -/
def collect (record : Record) : List Value → Except Fault Record
  | [] => .ok record
  | v :: rest => do
    let (key, value) ← v.pair
    collect (record.put key value) rest

/-- The entries of a mapping, or of a run of pairs. -/
def entries : Value → Except Fault Record
  | map es => .ok es
  | v => do collect [] (← v.items)

/-- The item at a position; positions below zero count from the end. -/
def itemAt (vs : List Value) (position : Int) : Except Fault Value :=
  let index : Int := if position < 0 then position + vs.length else position
  if index < 0 then .error (.misused .index)
  else match vs[index.toNat]? with
    | some v => .ok v
    | none => .error (.misused .index)

/-- A whole number or truth value as a position. -/
def position? : Value → Option Int
  | int n => some n
  | bool b => some b.toNat
  | _ => none

/-- The value under a key or at a position. -/
def at? (v key : Value) : Except Fault Value :=
  match v with
  | map es =>
    if key.isKey then
      match Record.get? es key with
      | some value => .ok value
      | none => .error (.misused .key)
    else .error (.misused .kind)
  | text _ | bytes _ | list _ | tuple _ =>
    match key.position? with
    | some n => do itemAt (← v.items) n
    | none => .error (.misused .kind)
  | _ => .error (.misused .kind)

/-- A mapping's entries; nothing else has any. -/
def mapping : Value → Except Fault Record
  | map es => .ok es
  | _ => .error (.misused .member)

end ModelStore.Value

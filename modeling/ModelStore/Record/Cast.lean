import ModelStore.Schema.Model
import ModelStore.Write.Timestamps

/-!
# Records from rows

A row comes back from storage as its driver read it. It becomes a record by two corrections: the two
columns that hold times by an old convention become numbers, whatever the model says of them, and a null
that the model forbids becomes the zero of its type. The columns and their order stay.

A time becomes a number as follows. A number stays; a moment becomes the milliseconds since the epoch,
by way of its seconds as a float; text that is a numeral becomes the number, whole if its value is whole;
anything else stays as it is. What is no number is written out to see whether it is a numeral; so a
sequence or a mapping that cannot be written, for the digits of a whole number in it, costs the row.
-/

namespace ModelStore

/-- The columns that always hold numbers. -/
def timeColumns : List String := ["created_at", "updated_at"]

/-- Seconds since the epoch, as the nearest float. -/
def Moment.seconds (t : Moment) : Binary64 :=
  Binary64.ofRatio (t.instant < 0) t.instant.natAbs 1000000

/-- A moment's milliseconds since the epoch, toward zero. -/
def Moment.milliseconds (t : Moment) : Int := (milliseconds? t.seconds).getD 0

/-- The power of ten from which on a whole number is not written out. The program draws no such line: it
multiplies out what there is memory for, and fails where the memory of the machine ends. The line here is
beyond any memory; what is stated of the program up to it is stated with this name. -/
def Decimal.powerBound : Int := 100000000000

/-- A decimal as a number: a whole number if its value is whole, the nearest float otherwise. The
infinite ones are too large for a whole number, and so are those whose digits nobody could hold; the
signaling not-a-number cannot be compared. -/
def Decimal.toNumber (d : Decimal) : Except Fault Value :=
  match d with
  | .infinite _ => .error (.misused .overflow)
  | .nan _ true _ => .error (.misused .arithmetic)
  | .nan _ false _ => .ok (.float .nan)
  | .finite _ c e =>
    if c ≠ 0 ∧ powerBound ≤ e then .error (.misused .capacity)
    else match d.toInt? with
      | some n => .ok (.int n)
      | none => .ok (.float d.toBinary64)

namespace Value

/-- A stored time as a number. -/
def toNumber : Value → Except Fault Value
  | bool b => .ok (.int b.toNat)
  | int n => .ok (.int n)
  | float x => .ok (.float x)
  | moment t => .ok (.int t.milliseconds)
  | v =>
    if v.overlong then .error (.misused .content)
    else match Decimal.read? v.plain with
      | some d => d.toNumber
      | none => .ok v

end Value

namespace Record

/-- Makes a time column a number, unless there is nothing in it. -/
def castTime (record : Record) (column : String) : Except Fault Record :=
  match record.get? (.text column) with
  | some v => if v.holds then do .ok (record.put (.text column) (← v.toNumber)) else .ok record
  | none => .ok record

end Record

namespace Model

/-- The zero in place of a null that is not allowed. -/
def zeroFill (model : Model) (entry : Value × Value) : Value × Value :=
  match entry.2, model.attribute? entry.1 with
  | .null, some a => (entry.1, a.zero?.getD .null)
  | _, _ => entry

/-- A row as a record. -/
def castRecord (model : Model) (row : Record) : Except Fault Record := do
  .ok ((← timeColumns.foldlM Record.castTime row).map (zeroFill model))

/-- A row as a record; no row is no record. -/
def castRow (model : Model) : Value → Except Fault (Option Record)
  | .null => .ok none
  | row => do .ok (some (← model.castRecord (← row.entries)))

end Model
end ModelStore

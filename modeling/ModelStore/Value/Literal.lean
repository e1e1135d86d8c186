import ModelStore.Value
import ModelStore.Text.Quoted
import ModelStore.Number.Shortest

/-!
# Values in messages

A refusal quotes the value it refuses. `Value.literal` writes any value so that its kind can be seen
(text is quoted, a decimal is named as one, a one-item tuple keeps its comma); `Value.plain` writes it
the way it would be read aloud, which differs only at the top: text stands as it is, and decimals and
moments are written without the name of their kind. SQL names are made of plain text.

Both write every whole number, whatever its size. The program does not write one of more than
`Text.maxDigits` digits, and what would quote it or name it fails instead; the messages and names here
stand for those of shorter numbers. Where writing a value is a step of what is computed, the step looks
for such numbers itself (`Value.overlong`).
-/

namespace ModelStore

/-- A difference of time as days, seconds and microseconds, of which only the days may be negative. -/
def durationLiteral (us : Int) : String :=
  let days := us.fdiv 86400000000
  let rest := (us - days * 86400000000).toNat
  let field (name : String) (n : Int) : List String := if n = 0 then [] else [name ++ toString n]
  let fields := field "days=" days ++ field "seconds=" (rest / 1000000 : Nat)
    ++ field "microseconds=" (rest % 1000000 : Nat)
  "datetime.timedelta(" ++ (if fields.isEmpty then "0" else String.intercalate ", " fields) ++ ")"

/-- A moment by its parts; seconds and microseconds are left out from the end while they are zero. -/
def Moment.literal (t : Moment) : String :=
  let parts := [t.year, t.month, t.day, t.hour, t.minute]
    ++ (if t.second = 0 ∧ t.microsecond = 0 then [] else [t.second])
    ++ (if t.microsecond = 0 then [] else [t.microsecond])
  let zone := match t.offset with
    | none => []
    | some 0 => ["tzinfo=datetime.timezone.utc"]
    | some us => ["tzinfo=datetime.timezone(" ++ durationLiteral us ++ ")"]
  "datetime.datetime(" ++ String.intercalate ", " (parts.map toString ++ zone) ++ ")"

namespace Value

mutual

/-- A value with its kind to be seen. -/
def literal : Value → String
  | null => "None"
  | bool b => if b then "True" else "False"
  | int n => toString n
  | float x => FloatLayout.plain.render x
  | decimal d => "Decimal(" ++ Text.quoted d.text ++ ")"
  | text s => Text.quoted s
  | bytes bs => Text.quotedBytes bs
  | moment t => t.literal
  | list items => "[" ++ String.intercalate ", " (literals items) ++ "]"
  | tuple items =>
    match items with
    | [item] => "(" ++ literal item ++ ",)"
    | items => "(" ++ String.intercalate ", " (literals items) ++ ")"
  | map entries => "\x7b" ++ String.intercalate ", " (entryLiterals entries) ++ "\x7d"
  | pending => "PENDING_TIMESTAMP"

def literals : List Value → List String
  | [] => []
  | v :: rest => literal v :: literals rest

def entryLiterals : List (Value × Value) → List String
  | [] => []
  | (k, v) :: rest => (literal k ++ ": " ++ literal v) :: entryLiterals rest

end

mutual

/-- Whether a whole number that has too many digits to be written stands anywhere in a value. -/
def overlong : Value → Bool
  | int n => Text.isOverlong n
  | list items => anyOverlong items
  | tuple items => anyOverlong items
  | map entries => anyEntryOverlong entries
  | _ => false

def anyOverlong : List Value → Bool
  | [] => false
  | v :: rest => overlong v || anyOverlong rest

def anyEntryOverlong : List (Value × Value) → Bool
  | [] => false
  | (k, v) :: rest => overlong k || overlong v || anyEntryOverlong rest

end

/-- A value as it would be read aloud. -/
def plain : Value → String
  | text s => s
  | decimal d => d.text
  | moment t => t.text ' '
  | v => v.literal

end Value
end ModelStore

import ModelStore.Fault
import ModelStore.Number.Shortest

/-!
# Values as JSON text

Attributes of type `json` are bound as text. Items and entries are separated by a comma and a blank, key
and value by a colon and a blank; characters outside ASCII stand as they are. Keys that are numbers,
truth values or null become text, and entries stay as they are even if two keys then read the same.
A value that JSON has no form for (a decimal, a moment, bytes, the pending time) is misused, and so is a
whole number of too many digits.
-/

namespace ModelStore

/-- One character of a JSON string. -/
def jsonChar (c : Char) : List Char :=
  if c = Text.doubleQuote ∨ c = Text.backslash then [Text.backslash, c]
  else match Text.letterEscape? c with
    | some escape => escape
    | none =>
      if c.toNat = 8 then [Text.backslash, 'b']
      else if c.toNat = 12 then [Text.backslash, 'f']
      else if c.toNat < 0x20 then Text.backslash :: 'u' :: Text.hexPadded 4 c.toNat
      else [c]

/-- A JSON string. -/
def jsonString (s : String) : String :=
  String.ofList (Text.doubleQuote :: s.toList.flatMap jsonChar ++ [Text.doubleQuote])

namespace Value

/-- The text of a whole number, as a value or as a key. -/
def jsonInt (n : Int) : Except Fault String :=
  if Text.isOverlong n then .error (.misused .content) else .ok (toString n)

/-- A key's text. -/
def jsonKey : Value → Except Fault String
  | text s => .ok s
  | float x => .ok (FloatLayout.json.render x)
  | bool b => .ok (if b then "true" else "false")
  | null => .ok "null"
  | int n => jsonInt n
  | _ => .error (.misused .kind)

mutual

/-- A value's JSON text. -/
def json : Value → Except Fault String
  | null => .ok "null"
  | bool b => .ok (if b then "true" else "false")
  | int n => jsonInt n
  | float x => .ok (FloatLayout.json.render x)
  | text s => .ok (jsonString s)
  | list vs => do .ok ("[" ++ String.intercalate ", " (← jsonItems vs) ++ "]")
  | tuple vs => do .ok ("[" ++ String.intercalate ", " (← jsonItems vs) ++ "]")
  | map es => do .ok ("\x7b" ++ String.intercalate ", " (← jsonEntries es) ++ "\x7d")
  | _ => .error (.misused .kind)

def jsonItems : List Value → Except Fault (List String)
  | [] => .ok []
  | v :: rest => do .ok ((← json v) :: (← jsonItems rest))

def jsonEntries : List (Value × Value) → Except Fault (List String)
  | [] => .ok []
  | (k, v) :: rest => do
    let key ← jsonKey k
    let value ← json v
    .ok ((jsonString key ++ ": " ++ value) :: (← jsonEntries rest))

end

end Value
end ModelStore

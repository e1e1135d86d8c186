import ModelStore.Value.Equality
import ModelStore.Value.Json

/-!
# Attributes

An attribute describes one column of a table: the type of its values, whether null is allowed, what is
written when a new record does not mention it, and whether it points to a record of another model.

`Attribute.ofDocument` reads an attribute from a document, a mapping. Each setting has a written name and
a plain one, of which the written name wins if both are there; other keys are ignored. Truth values are
read leniently (`1`, `"yes"`, `"off"`, …). All issues of a document are found, not only the first.

Two rules are worth stating at once. *A default is declared by its key alone*: a document that says
`defaultsTo: null` declares the default null, and so `declaredDefault` is an option of a value. And *an
attribute without a type is of type `ref`*.
-/

namespace ModelStore

/-! ## Types -/

inductive AttributeType
  | string
  | number
  | boolean
  | json
  | ref
  deriving DecidableEq, Repr, Inhabited

namespace AttributeType

/-- All types, in the order of their definition. -/
def all : List AttributeType := [string, number, boolean, json, ref]

/-- A type's name in documents. -/
def name : AttributeType → String
  | string => "string"
  | number => "number"
  | boolean => "boolean"
  | json => "json"
  | ref => "ref"

/-- The type of a name. -/
def ofName? (s : String) : Option AttributeType := all.find? fun type => type.name == s

theorem ofName?_name (type : AttributeType) : ofName? type.name = some type := by
  cases type <;> rfl

/-- What takes the place of a null that is not allowed: the zero of the type, if it has one. -/
def zero? : AttributeType → Option Value
  | string => some (.text "")
  | number => some (.int 0)
  | boolean => some (.bool false)
  | json => none
  | ref => none

end AttributeType

/-! ## Attributes -/

structure Attribute where
  type : AttributeType
  allowNull : Bool
  /-- What a new record gets that does not mention the attribute. -/
  declaredDefault : Option Value
  /-- Storage numbers the records itself. -/
  autoIncrement : Bool
  /-- Set to the time at which a record is created. -/
  autoCreatedAt : Bool
  /-- Set to the time at which a record is written. -/
  autoUpdatedAt : Bool
  /-- The model whose records this attribute points to. -/
  relation : Option String
  deriving Repr, Inhabited

namespace Attribute

/-- Whether the attribute holds a key of another model's record. -/
def isRelation (a : Attribute) : Bool := a.relation.isSome

/-- What takes the place of null, if null does not stay: the zero of the type, unless null is allowed or
stands for "no related record". -/
def zero? (a : Attribute) : Option Value :=
  if a.allowNull || a.isRelation then none else a.type.zero?

/-- Whether null is replaced. -/
def coercesNull (a : Attribute) : Bool := a.zero?.isSome

/-- The form in which a value is bound: text for the type `json`, with null kept. -/
def serialize (a : Attribute) (v : Value) : Except Fault Value :=
  if a.type = .json ∧ v.isNull = false then v.json.map .text else .ok v

/-! ## Reading documents -/

/-- What is wrong with a setting's value. -/
abbrev Problem := String

/-- The words for true and for false. -/
def truthWords : List (String × Bool) :=
  [("1", true), ("on", true), ("t", true), ("true", true), ("y", true), ("yes", true),
   ("0", false), ("off", false), ("f", false), ("false", false), ("n", false), ("no", false)]

/-- A word read as a truth value, ASCII letters without regard to case. -/
def truthOfWord (s : String) : Except Problem Bool :=
  match truthWords.find? fun entry => entry.1 == s.map Char.toLower with
  | some entry => .ok entry.2
  | none => .error "bool_parsing"

/-- A whole number read as a truth value; one of more than 64 bits is not taken for a number here. -/
def truthOfInt (n : Int) : Except Problem Bool :=
  if n = 0 then .ok false
  else if n = 1 then .ok true
  else if -Int.pow 2 63 ≤ n ∧ n < Int.pow 2 63 then .error "bool_parsing"
  else .error "bool_type"

/-- A float read as a truth value: it has to be whole. -/
def truthOfFloat (x : Binary64) : Except Problem Bool :=
  match x.truncate? with
  | some n => if x.isWhole && n != -Int.pow 2 63 then truthOfInt n else .error "bool_type"
  | none => .error "bool_type"

/-- Bytes as text, if they are text. -/
def textOfBytes? (bs : List UInt8) : Option String := String.fromUTF8? ⟨bs.toArray⟩

/-- A truth value, read leniently. -/
def truth : Value → Except Problem Bool
  | .bool b => .ok b
  | .text s => truthOfWord s
  | .bytes bs => match textOfBytes? bs with
    | some s => truthOfWord s
    | none => .error "bool_parsing"
  | .int n => truthOfInt n
  | .float x => truthOfFloat x
  | .decimal d => truthOfFloat d.toBinary64
  | _ => .error "bool_type"

/-- A text; bytes count as text if they are. -/
def textSetting : Value → Except Problem String
  | .text s => .ok s
  | .bytes bs => match textOfBytes? bs with
    | some s => .ok s
    | none => .error "string_unicode"
  | _ => .error "string_type"

/-- A text, or null for none. -/
def optionalText : Value → Except Problem (Option String)
  | .null => .ok none
  | v => (textSetting v).map some

/-- A type by its name; null stands for `ref`. -/
def typeSetting : Value → Except Problem AttributeType
  | .null => .ok .ref
  | v => match textSetting v with
    | .ok s => match AttributeType.ofName? s with
      | some type => .ok type
      | none => .error "enum"
    | .error _ => .error "enum"

/-- The setting under the first of the names that the document has, with that name. -/
def setting? (document : Record) (names : List String) : Option (String × Value) :=
  names.findSome? fun name => (document.get? (.text name)).map fun v => (name, v)

/-- Reads a setting, or takes what holds when it is absent. -/
def read {α : Type} (document : Record) (names : List String) (absent : α)
    (reader : Value → Except Problem α) : Except Issue α :=
  match setting? document names with
  | none => .ok absent
  | some (name, v) => match reader v with
    | .ok x => .ok x
    | .error problem => .error ⟨[name], problem⟩

/-- The issue of a setting that could not be read. -/
def issues {α : Type} : Except Issue α → List Issue
  | .ok _ => []
  | .error issue => [issue]

/-- The default that a document declares. Its key alone declares it; `has_default` declares null. -/
def readDefault (document : Record) : Except Issue (Option Value) :=
  match setting? document ["defaultsTo", "defaults_to"] with
  | some (_, v) => .ok (some v)
  | none => (read document ["has_default"] false truth).map fun declared =>
      if declared then some .null else none

/-- An attribute from its document. -/
def ofDocument : Value → Except Fault Attribute
  | .map document =>
    let type := read document ["type"] .ref typeSetting
    let allowNull := read document ["allowNull", "allow_null"] false truth
    let declaredDefault := readDefault document
    let autoIncrement := read document ["autoIncrement", "auto_increment"] false truth
    let autoCreatedAt := read document ["autoCreatedAt", "auto_created_at"] false truth
    let autoUpdatedAt := read document ["autoUpdatedAt", "auto_updated_at"] false truth
    let relation := read document ["model", "relation_target"] none optionalText
    match type, allowNull, declaredDefault, autoIncrement, autoCreatedAt, autoUpdatedAt, relation with
    | .ok type, .ok allowNull, .ok declaredDefault, .ok autoIncrement, .ok autoCreatedAt,
        .ok autoUpdatedAt, .ok relation =>
      .ok ⟨type, allowNull, declaredDefault, autoIncrement, autoCreatedAt, autoUpdatedAt, relation⟩
    | type, allowNull, declaredDefault, autoIncrement, autoCreatedAt, autoUpdatedAt, relation =>
      .error <| .invalid <| issues type ++ issues allowNull ++ issues declaredDefault
        ++ issues autoIncrement ++ issues autoCreatedAt ++ issues autoUpdatedAt ++ issues relation
  | _ => .error (.invalid [⟨[], "model_type"⟩])

end Attribute
end ModelStore

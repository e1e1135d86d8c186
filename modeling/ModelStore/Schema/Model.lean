import ModelStore.Association
import ModelStore.Schema.Attribute
import ModelStore.Text.Lowercase
import ModelStore.Value.Access

/-!
# Models and their registry

A model is the schema of one table: a name and its attributes in order. The table's name is the model's
name in lower case; of a name given in bytes only the ASCII letters have one. A model is read from a
document, merged over default attributes that all models share: a default attribute keeps its place and is
overridden by the model's own of the same name.

The registry holds the models under their names, in the order given. `Registry.find?` ignores case and
takes the first model that matches; two models whose names differ in case only are both there, but the
second is reached by its exact name alone.
-/

namespace ModelStore

/-- The column that identifies a record. -/
def primaryKey : String := "id"

structure Model where
  name : String
  attributes : Association Attribute
  /-- The name was given in bytes, not as a text. -/
  inBytes : Bool := false
  deriving Repr, Inhabited

namespace Model

/-- The name of the model's table. -/
def table (model : Model) : String :=
  if model.inBytes then model.name.map Char.toLower else Text.lowercase model.name

/-- What the model is registered under. -/
def key (model : Model) : Value :=
  if model.inBytes then .bytes model.name.toUTF8.toList else .text model.name

/-- How a model shows itself. -/
def label (model : Model) : String := "<Model " ++ model.name ++ ">"

/-- The attribute of a column; only text names one. -/
def attribute? (model : Model) : Value → Option Attribute
  | .text s => model.attributes.get? s
  | _ => none

/-- The attribute of the given name, or a refusal. -/
def attributeNamed (model : Model) (name : String) : Except Fault Attribute :=
  match model.attribute? (.text name) with
  | some a => .ok a
  | none => .error (.because (.refused (.unknownAttribute model.name name)) (.misused .key))

/-! ## Reading documents -/

/-- The entries of a value that may be left out. -/
def optionalEntries (v : Value) : Except Fault Record :=
  if v.holds then v.entries else .ok []

/-- A record with the entries of another put over it. -/
def overlay (lower upper : Record) : Record :=
  upper.foldl (fun record entry => Record.put record entry.1 entry.2) lower

/-- The name of an attribute in the location of an issue. -/
def locationOfKey : Value → String
  | .text s => s
  | .bool b => toString b.toNat
  | v => v.literal

/-- Attributes with their names, which have to be texts, or text in bytes. -/
def named : List (Value × Attribute) → Except (List Issue) (List (String × Attribute))
  | [] => .ok []
  | (key, a) :: rest =>
    match Attribute.textSetting key, named rest with
    | .ok name, .ok entries => .ok ((name, a) :: entries)
    | .ok _, .error issues => .error issues
    | .error problem, others => .error <|
        ⟨["attributes", locationOfKey key, "[key]"], problem⟩ ::
          (match others with | .ok _ => [] | .error issues => issues)

/-- A model from its name, its document and the defaults all models share. -/
def ofDocument (name : Value) (document defaults : Value) : Except Fault Model := do
  let shared ← optionalEntries defaults
  let own ← optionalEntries (((← document.mapping).get? (.text "attributes")).getD .null)
  let inBytes ← match name with
    | .text _ => .ok false
    | .bytes _ => .ok true
    | _ => .error (.misused .member)
  let attributes ← (overlay shared own).mapM fun entry => do
    .ok (entry.1, ← Attribute.ofDocument entry.2)
  match Attribute.textSetting name, named attributes with
  | .ok name, .ok attributes => .ok ⟨name, .ofEntries attributes, inBytes⟩
  | .ok _, .error issues => .error (.invalid issues)
  | .error problem, attributes =>
    let issues := match attributes with | .ok _ => [] | .error issues => issues
    .error (.invalid (⟨["identifier"], problem⟩ :: ⟨["display_name"], problem⟩ :: issues))

end Model

/-! ## The registry -/

/-- Models under their names, in order. -/
structure Registry where
  models : List Model
  deriving Repr, Inhabited

namespace Registry

/-- A registry from a mapping of names to documents. -/
def ofDocuments (documents defaults : Value) : Except Fault Registry := do
  .ok ⟨← (← documents.mapping).mapM fun entry => Model.ofDocument entry.1 entry.2 defaults⟩

/-- The model under exactly this key. -/
def get? (registry : Registry) (key : Value) : Option Model :=
  registry.models.find? fun model => model.key.equal key

/-- The first model whose name is the given one but for case. -/
def find? (registry : Registry) (name : String) : Option Model :=
  registry.models.find? fun model => Text.lowercase model.name == Text.lowercase name

/-- The first model whose name is the given one but for case, or a refusal. Only text is a name. -/
def find (registry : Registry) : Value → Except Fault Model
  | .text name => match registry.find? name with
    | some model => .ok model
    | none => .error (.refused (.unknownModel name))
  | .bytes bs => .error (.refused (.unknownModel (Value.bytes bs).plain))
  | _ => .error (.misused .member)

/-- The model under a key, or a refusal. -/
def get (registry : Registry) (key : Value) : Except Fault Model :=
  match registry.get? key with
  | some model => .ok model
  | none => .error (.misused (if key.isKey then .key else .kind))

/-- Whether there is a model under a key. -/
def has (registry : Registry) (key : Value) : Except Fault Bool :=
  match registry.get key with
  | .ok _ => .ok true
  | .error (.misused .key) => .ok false
  | .error fault => .error fault

end Registry
end ModelStore

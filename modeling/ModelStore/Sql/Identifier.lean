import ModelStore.Text.Quoted

/-!
# Quoted identifiers

A name of a table or a column is written between double quotes, and a double quote inside it is written
twice. So any text is a name, and a quoted name ends at its first quote that does not have a partner:
`unquoteChars` reads it back together with what follows.
-/

namespace ModelStore

/-- The inside of a quoted name. -/
def doubledChars : List Char → List Char
  | [] => []
  | c :: rest =>
    if c = Text.doubleQuote then Text.doubleQuote :: Text.doubleQuote :: doubledChars rest
    else c :: doubledChars rest

/-- A name between quotes. -/
def quotedName (name : String) : String :=
  String.ofList (Text.doubleQuote :: doubledChars name.toList ++ [Text.doubleQuote])

/-- Reads the inside of a quoted name up to its closing quote; gives the name and what follows. -/
def unquoteChars : List Char → Option (List Char × List Char)
  | [] => none
  | [c] => if c = Text.doubleQuote then some ([], []) else none
  | c :: d :: rest =>
    if c = Text.doubleQuote then
      if d = Text.doubleQuote then
        (unquoteChars rest).map fun (name, rest) => (Text.doubleQuote :: name, rest)
      else some ([], d :: rest)
    else (unquoteChars (d :: rest)).map fun (name, rest) => (c :: name, rest)

end ModelStore

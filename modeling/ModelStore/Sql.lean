import ModelStore.Sql.Identifier
import ModelStore.Value.Literal

/-!
# Statements as tokens

Statements are put together from tokens and only then written out. The point is what a token can hold: a
name that a caller chose becomes a `Token.name` and is quoted, a value that a caller gave becomes a
`Token.placeholder` and is bound, and everything else is a word or a mark of a fixed stock. No text of a
caller's can become part of the statement's shape, except where the caller gives the SQL itself
(`Token.verbatim`).

Values are bound by position: `placeholder n` stands for the `n`-th argument, counted from one. Whatever
writes placeholders takes the number of arguments that are bound before it.
-/

namespace ModelStore

namespace Sql

/-! ## Tokens -/

inductive Keyword
  | AND | ANY | ASC | BY | DEFAULT | DELETE | DESC | FROM | INSERT | INTO | IS | LIMIT | NOT | NULL
  | ORDER | RETURNING | SELECT | SET | UPDATE | VALUES | WHERE
  deriving DecidableEq, Repr, Inhabited

def Keyword.text : Keyword → String
  | AND => "AND" | ANY => "ANY" | ASC => "ASC" | BY => "BY" | DEFAULT => "DEFAULT"
  | DELETE => "DELETE" | DESC => "DESC" | FROM => "FROM" | INSERT => "INSERT" | INTO => "INTO"
  | IS => "IS" | LIMIT => "LIMIT" | NOT => "NOT" | NULL => "NULL" | ORDER => "ORDER"
  | RETURNING => "RETURNING" | SELECT => "SELECT" | SET => "SET" | UPDATE => "UPDATE"
  | VALUES => "VALUES" | WHERE => "WHERE"

/-- Punctuation and operators. -/
inductive Mark
  | opening | closing | comma | point | star | equal | notEqual | less | greater | atMost | atLeast
  deriving DecidableEq, Repr, Inhabited

def Mark.text : Mark → String
  | opening => "(" | closing => ")" | comma => "," | point => "." | star => "*" | equal => "="
  | notEqual => "!=" | less => "<" | greater => ">" | atMost => "<=" | atLeast => ">="

inductive Token
  | keyword (word : Keyword)
  | mark (m : Mark)
  | name (text : String)
  | placeholder (position : Nat)
  | number (n : Nat)
  | blank
  | verbatim (text : String)
  deriving DecidableEq, Repr, Inhabited

/-- A token as it is written. -/
def Token.text : Token → String
  | keyword word => word.text
  | mark m => m.text
  | name s => quotedName s
  | placeholder n => "$" ++ toString n
  | number n => toString n
  | blank => " "
  | verbatim s => s

end Sql

/-- A statement, or a part of one. -/
abbrev Sql := List Sql.Token

namespace Sql

/-- A statement as it is sent. -/
def render (sql : Sql) : String := String.join (sql.map Token.text)

theorem render_nil : render [] = "" := rfl

/-- Writing goes token by token. -/
theorem render_cons (token : Token) (sql : Sql) : render (token :: sql) = token.text ++ render sql := by
  simp [render]

/-- Parts are written one after the other. -/
theorem render_append (first second : Sql) : render (first ++ second) = render first ++ render second := by
  simp [render]

/-! ## Shared parts -/

/-- Words with a blank between them. -/
def keywords (words : List Keyword) : Sql := (words.map Token.keyword).intersperse .blank

/-- Parts with a separator between them. -/
def joined (separator : Sql) (parts : List Sql) : Sql := (parts.intersperse separator).flatten

/-- Parts with a comma and a blank between them. -/
def listed (parts : List Sql) : Sql := joined [.mark .comma, .blank] parts

/-- Parts with a blank between them; empty parts are left out. -/
def spaced (parts : List Sql) : Sql := joined [.blank] (parts.filter fun part => !part.isEmpty)

/-- A part between parentheses. -/
def parenthesized (part : Sql) : Sql := .mark .opening :: part ++ [.mark .closing]

/-- `count` placeholders in a row, after `bound` arguments. -/
def placeholders (bound count : Nat) : List Sql :=
  (List.range count).map fun i => [.placeholder (bound + i + 1)]

/-- Placeholders are counted on from the first. -/
theorem placeholders_succ (bound count : Nat) :
    placeholders bound (count + 1) = [.placeholder (bound + 1)] :: placeholders (bound + 1) count := by
  simp only [placeholders, List.range_succ_eq_map, List.map_cons, List.map_map, Nat.add_zero]
  congr 1
  refine List.map_congr_left ?_
  intro i _
  simp only [Function.comp_apply, List.cons.injEq, Token.placeholder.injEq, and_true]
  omega

/-- A table's name, after its schema's if one is given (an empty one is none). -/
def tableName (table schema : Value) : Sql :=
  if schema.holds then [.name schema.plain, .mark .point, .name table.plain] else [.name table.plain]

end Sql
end ModelStore

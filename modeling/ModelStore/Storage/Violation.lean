import ModelStore.Fault

/-!
# Kinds of storage errors

Storage reports errors under native codes, five characters each. Callers speak of two kinds of them:
a value that should be unique is not, and a query for one row met several. Every kind has its codes, no
code has two kinds, and unknown codes and unknown kinds are not errors but simply have no counterpart.
-/

namespace ModelStore

inductive Violation
  | unique
  | ambiguousMatch
  deriving DecidableEq, Repr, Inhabited

namespace Violation

def all : List Violation := [unique, ambiguousMatch]

/-- A kind's symbol. -/
def symbol : Violation → String
  | unique => "E_UNIQUE"
  | ambiguousMatch => "E_AMBIGUOUS_MATCH"

/-- The native codes of a kind. -/
def codes : Violation → List String
  | unique => ["23505"]
  | ambiguousMatch => ["21000"]

/-- The kind of a symbol. -/
def ofSymbol? : Value → Option Violation
  | .text s => all.find? fun kind => kind.symbol == s
  | _ => none

/-- The native codes of a symbol; none if it is unknown. -/
def codesOf (kind : Value) : List String := ((ofSymbol? kind).map codes).getD []

/-- The kind of a native code. -/
def ofCode? (code : String) : Option Violation := all.find? fun kind => kind.codes.contains code

/-- The kind of a native code that may be a number, or missing. -/
def classify (code : Value) : Option Violation :=
  if code.isNull then none else ofCode? code.plain

end Violation
end ModelStore

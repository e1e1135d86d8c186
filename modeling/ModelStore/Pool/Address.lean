import ModelStore.Fault
import ModelStore.Pool.Host

/-!
# Addresses of databases

From the address of a database two things are wanted: its scheme, which chooses the engine, and the text
that the driver is given. The scheme is what is before the first colon, if that is a letter and more
letters, digits, plus signs, hyphens and points; else there is none. An address whose authority (the part
between `//` and the path) is malformed has no scheme either, and is refused.

The driver gets the address without `+asyncpg`, wherever that occurs first.
-/

namespace ModelStore.Address

/-- What may stand in a scheme. -/
def isSchemeChar (c : Char) : Bool := c.isAlphanum || c == '+' || c == '-' || c == '.'

/-- An address without the control characters and blanks before it and without line ends and tabs. -/
def cleaned (address : String) : List Char :=
  (address.toList.dropWhile fun c => c.toNat ≤ 0x20).filter fun c => c != '\t' && c != '\n' && c != '\r'

/-- The scheme, in small letters, and what follows its colon; or no scheme and everything. -/
def splitScheme (cs : List Char) : List Char × List Char :=
  let before := cs.takeWhile (· != ':')
  match cs.dropWhile (· != ':') with
  | [] => ([], cs)
  | _ :: rest =>
    if (before.head?.any Char.isAlpha) && before.all isSchemeChar then (before.map Char.toLower, rest)
    else ([], cs)

/-- The authority of what follows the scheme; empty if there is none. -/
def authority : List Char → List Char
  | '/' :: '/' :: rest => rest.takeWhile fun c => c != '/' && c != '?' && c != '#'
  | _ => []

/-- Characters that stand for a slash, question mark, number sign, at sign or colon, alone or among others.
-/
def disguised : List Nat :=
  [0x2047, 0x2048, 0x2049, 0x2100, 0x2101, 0x2105, 0x2106, 0x2A74, 0xFE13, 0xFE16, 0xFE55, 0xFE56,
   0xFE5F, 0xFE6B, 0xFF03, 0xFF0F, 0xFF1A, 0xFF1F, 0xFF20]

/-- What is behind the last at sign of an authority: a host, and perhaps a port. -/
def hostAndPort (authority : List Char) : List Char :=
  (authority.reverse.takeWhile (· != '@')).reverse

/-- The host of an authority that has brackets somewhere. It starts with one, and what follows the other is
nothing or a port behind a colon. If the brackets are all before the at sign, the host has none. -/
def bracketedHost? (authority : List Char) : Option (List Char) :=
  let text := hostAndPort authority
  if !text.contains '[' then some (text.takeWhile (· != ':'))
  else match text with
    | '[' :: rest =>
      match (rest.dropWhile (· != ']')).drop 1 with
      | [] | ':' :: _ => some (rest.takeWhile (· != ']'))
      | _ => none
    | _ => none

/-- Whether an authority is well formed: where there are brackets, there are both, and its host is one that
may stand between brackets; and nothing in it only looks like a different character. -/
def isAuthority (cs : List Char) : Bool :=
  let opening := cs.contains '['
  opening == cs.contains ']' && (!opening || (bracketedHost? cs).any Host.isBracketed)
    && !cs.any fun c => disguised.contains c.toNat

/-- The scheme of an address; empty if there is none. -/
def scheme (address : String) : Except Fault String :=
  let (scheme, rest) := splitScheme (cleaned address)
  if isAuthority (authority rest) then .ok (String.ofList scheme) else .error (.misused .content)

/-- The first occurrence of a text taken out. -/
def without (part : List Char) : List Char → List Char
  | [] => []
  | c :: rest =>
    if part.isPrefixOf (c :: rest) then (c :: rest).drop part.length else c :: without part rest

/-- What the driver is given. -/
def driverText (address : String) : String := String.ofList (without "+asyncpg".toList address.toList)

end ModelStore.Address

/-!
# Hosts in brackets

A host between brackets in an address has to be an address of eight groups of digits in base sixteen, of
which one run of zeros may be left out (`::`), the last two may be written as four decimal numbers, and
which may name a zone behind a percent sign. Or it is one of a kind still to come: `v`, a version in base
sixteen, a point and more. Only whether it is one is asked here, never which.
-/

namespace ModelStore.Host

/-- The parts between the occurrences of a separator. -/
def split (separator : Char) : List Char → List (List Char)
  | [] => [[]]
  | c :: rest =>
    if c = separator then [] :: split separator rest
    else match split separator rest with
      | part :: parts => (c :: part) :: parts
      | [] => [[c]]

def isHexDigit (c : Char) : Bool :=
  c.isDigit || ('a' ≤ c && c ≤ 'f') || ('A' ≤ c && c ≤ 'F')

/-- A group of up to four digits. -/
def isGroup (part : List Char) : Bool := !part.isEmpty && part.length ≤ 4 && part.all isHexDigit

/-- A decimal number up to 255 without leading zeros. -/
def isOctet (part : List Char) : Bool :=
  !part.isEmpty && part.length ≤ 3 && part.all Char.isDigit && (part == ['0'] || part.head? != some '0')
    && part.foldl (fun n c => 10 * n + (c.toNat - 48)) 0 ≤ 255

/-- Four decimal numbers with points between them. -/
def isDotted (part : List Char) : Bool :=
  let octets := split '.' part
  octets.length == 4 && octets.all isOctet

/-- How many groups a text holds, if it holds nothing else. Only the end of an address may be dotted. -/
def groupCount? (atEnd : Bool) (cs : List Char) : Option Nat :=
  if cs.isEmpty then some 0
  else
    let parts := split ':' cs
    let last := parts.getLastD []
    if !parts.dropLast.all isGroup then none
    else if isGroup last then some parts.length
    else if atEnd && isDotted last then some (parts.length + 1)
    else none

/-- What is before and after the first double colon. -/
def splitRun? : List Char → Option (List Char × List Char)
  | [] => none
  | [_] => none
  | c :: d :: rest =>
    if c = ':' ∧ d = ':' then some ([], rest)
    else (splitRun? (d :: rest)).map fun (before, after) => (c :: before, after)

/-- An address of eight groups. -/
def isAddress (cs : List Char) : Bool :=
  match splitRun? cs with
  | none => groupCount? true cs == some 8
  | some (before, after) => match groupCount? false before, groupCount? true after with
    | some m, some n => m + n < 8
    | _, _ => false

/-- An address that may name a zone. -/
def isZoned (cs : List Char) : Bool :=
  match cs.dropWhile (· != '%') with
  | [] => isAddress cs
  | _ :: zone => !zone.isEmpty && !zone.contains '%' && isAddress (cs.takeWhile (· != '%'))

/-- An address of a kind still to come, without its `v`. -/
def isFuture (cs : List Char) : Bool :=
  let version := cs.takeWhile isHexDigit
  match cs.dropWhile isHexDigit with
  | '.' :: rest => !version.isEmpty && !rest.isEmpty
  | _ => false

/-- What may stand between brackets. -/
def isBracketed : List Char → Bool
  | 'v' :: rest => isFuture rest
  | cs => isZoned cs

end ModelStore.Host

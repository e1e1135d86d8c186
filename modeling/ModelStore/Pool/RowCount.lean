import ModelStore.Fault
import ModelStore.Text.Digit

/-!
# Counts in command tags

An engine confirms a command with a tag such as `UPDATE 3`, whose last word is the number of rows it
touched. A tag whose last word is not made of digits counts no rows.
-/

namespace ModelStore

/-- What follows the last blank. -/
def lastWord (cs : List Char) : List Char := (cs.reverse.takeWhile (· != ' ')).reverse

/-- The number at the end of a tag. Digits that are not decimal ones, such as superscripts, look like a
number and are none, which is a fault; so is a run of digits that is too long. -/
def rowCount (tag : String) : Except Fault Nat :=
  let word := lastWord tag.toList
  if word.isEmpty || !word.all Text.isDigitLike then .ok 0
  else match word.mapM Text.digitValue? with
    | some digits =>
      if Text.maxDigits < digits.length then .error (.misused .content) else .ok (Text.natOfDigits digits)
    | none => .error (.misused .content)

/-- The count of a tag that may be missing. -/
def rowCountOf? : Option String → Except Fault Nat
  | none => .ok 0
  | some tag => rowCount tag

end ModelStore

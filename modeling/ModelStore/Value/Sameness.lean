import ModelStore.Fault
import ModelStore.Value.Equality

/-!
# Equality that may be refused

Values that are not keys may hold a signaling not-a-number, and to compare one with any number, itself
included, is refused. So whether two values are the same has an answer or a refusal, and which of them it
is depends on how far the comparison gets: it ends at the first difference.

* Lists of different lengths differ, whatever they hold; tuples are compared item by item up to the end of
  the shorter one, and only then by length.
* Mappings of different sizes differ. Else the entries of the first are looked up in the second, one after
  the other.

Keys hold no signaling not-a-number, so for them this is plain equality (`same_of_isKey`).
-/

namespace ModelStore.Value

/-- Equality of values that are no sequences and mappings both. -/
def sameScalar (v w : Value) : Except Fault Bool :=
  if v.isNumber && w.isNumber && (v.isSignaling || w.isSignaling) then .error (.misused .arithmetic)
  else .ok (v.equal w)

mutual

/-- Whether two values are the same. -/
def same : Value → Value → Except Fault Bool
  | list vs, list ws => if vs.length = ws.length then sameItems vs ws else .ok false
  | tuple vs, tuple ws => sameItems vs ws
  | map es, map fs => if es.length = fs.length then sameEntries es fs else .ok false
  | v, w => sameScalar v w

def sameItems : List Value → List Value → Except Fault Bool
  | [], [] => .ok true
  | v :: vs, w :: ws => do if ← same v w then sameItems vs ws else .ok false
  | _, _ => .ok false

/-- Whether every entry of the first mapping has the same value in the second. -/
def sameEntries : List (Value × Value) → List (Value × Value) → Except Fault Bool
  | [], _ => .ok true
  | (key, v) :: rest, entries =>
    match Record.get? entries key with
    | some w => do if ← same v w then sameEntries rest entries else .ok false
    | none => .ok false

end

/-- Whether a value is one of some others, which are looked through up to the first that is the same. -/
def isIn (v : Value) : List Value → Except Fault Bool
  | [] => .ok false
  | w :: rest => do if ← same w v then .ok true else isIn v rest

/-! ## Keys -/

theorem isSignaling_of_isKey {v : Value} (h : v.isKey = true) : v.isSignaling = false := by
  cases v with
  | decimal d =>
    cases d with
    | nan negative signaling payload => simpa [isKey, isSignaling] using h
    | _ => rfl
  | _ => rfl

theorem sameScalar_of_isKey {v w : Value} (hv : v.isKey = true) (hw : w.isKey = true) :
    sameScalar v w = .ok (v.equal w) := by
  simp [sameScalar, isSignaling_of_isKey hv, isSignaling_of_isKey hw]

mutual

/-- For keys, nothing is refused. -/
theorem same_of_isKey (v w : Value) (hv : v.isKey = true) (hw : w.isKey = true) :
    same v w = .ok (v.equal w) := by
  unfold same
  split
  · simp [isKey] at hv
  · simp only [isKey] at hv hw
    rw [equal]
    exact sameItems_of_areKeys _ _ hv hw
  · simp [isKey] at hv
  · exact sameScalar_of_isKey hv hw

theorem sameItems_of_areKeys (vs ws : List Value) (hv : areKeys vs = true)
    (hw : areKeys ws = true) : sameItems vs ws = .ok (equalItems vs ws) := by
  match vs, ws with
  | [], [] => rfl
  | [], _ :: _ => rfl
  | _ :: _, [] => rfl
  | v :: vs, w :: ws =>
    simp only [areKeys, Bool.and_eq_true] at hv hw
    simp only [sameItems, equalItems, same_of_isKey v w hv.1 hw.1, bind, Except.bind]
    cases v.equal w
    · simp
    · simpa using sameItems_of_areKeys vs ws hv.2 hw.2

end

end ModelStore.Value

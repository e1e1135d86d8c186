import ModelStore.Value.Equality

/-!
# Equality of keys

Equality by value is no equivalence: not-a-number equals nothing. But **on keys it is symmetric and
transitive** (`equal_symm`, `equal_trans`), and what equals a key is a key (`isKey_of_equal`). So keys that equal
one another are equal to the same values (`equal_congr_left`), which is what looking up by key rests on.

Numbers are the reason that this needs a proof. A number may be equal to one of another kind, so the cases of two
equal keys are not those of one kind at a time: they are those of `Alike`, where all numbers are one case.
-/

namespace ModelStore.Value

/-! ## Numbers -/

/-- What a number stands for: a finite number, or the sign of an infinite one. -/
def number? (v : Value) : Option (ExactNumber ⊕ Bool) :=
  match v.finiteNumber? with
  | some x => some (.inl x)
  | none => v.infinite?.map .inr

theorem infinite?_of_finiteNumber? {v : Value} {x : ExactNumber} (h : v.finiteNumber? = some x) :
    v.infinite? = none := by
  cases v with
  | float y => cases y <;> first | rfl | simp [finiteNumber?] at h
  | decimal d => cases d <;> first | rfl | simp [finiteNumber?] at h
  | _ => rfl

theorem sameNumber_iff {v w : Value} :
    v.sameNumber w = true ↔ ∃ n, v.number? = some n ∧ w.number? = some n := by
  unfold sameNumber number?
  cases hv : v.finiteNumber? with
  | some x =>
    cases hw : w.finiteNumber? with
    | some y => simpa using eq_comm
    | none => simp [infinite?_of_finiteNumber? hv]
  | none =>
    cases hw : w.finiteNumber? with
    | some y => simp [infinite?_of_finiteNumber? hw]
    | none =>
      cases v.infinite? with
      | none => simp
      | some x =>
        cases w.infinite? with
        | none => simp
        | some y => simpa using eq_comm

theorem sameNumber_symm {v w : Value} (h : v.sameNumber w = true) : w.sameNumber v = true := by
  obtain ⟨n, hv, hw⟩ := sameNumber_iff.mp h
  exact sameNumber_iff.mpr ⟨n, hw, hv⟩

theorem sameNumber_trans {u v w : Value} (h : u.sameNumber v = true) (h' : v.sameNumber w = true) :
    u.sameNumber w = true := by
  obtain ⟨n, hu, hv⟩ := sameNumber_iff.mp h
  obtain ⟨m, hv', hw⟩ := sameNumber_iff.mp h'
  obtain rfl : n = m := Option.some.inj (hv.symm.trans hv')
  exact sameNumber_iff.mpr ⟨n, hu, hw⟩

theorem isNumber_of_number? {v : Value} {n : ExactNumber ⊕ Bool} (h : v.number? = some n) :
    v.isNumber = true := by
  cases v with
  | bool b => rfl
  | int n => rfl
  | float x => rfl
  | decimal d => rfl
  | _ => simp [number?, finiteNumber?, infinite?] at h

/-- A number is a key unless it is a signaling not-a-number, which stands for nothing. -/
theorem isKey_of_number? {v : Value} {n : ExactNumber ⊕ Bool} (h : v.number? = some n) : v.isKey = true := by
  cases v with
  | decimal d =>
    cases d with
    | nan negative signaling payload => simp [number?, finiteNumber?, infinite?] at h
    | finite negative c e => rfl
    | infinite negative => rfl
  | list items => simp [number?, finiteNumber?, infinite?] at h
  | map entries => simp [number?, finiteNumber?, infinite?] at h
  | tuple items => simp [number?, finiteNumber?, infinite?] at h
  | _ => rfl

/-- A number is compared as a number, whatever with. -/
theorem equal_of_isNumber {v : Value} (h : v.isNumber = true) (w : Value) : v.equal w = v.sameNumber w := by
  cases v with
  | bool b => cases w <;> rfl
  | int n => cases w <;> rfl
  | float x => cases w <;> rfl
  | decimal d => cases w <;> rfl
  | _ => simp [isNumber] at h

end Value

/-! ## Moments -/

namespace Moment

theorem same_symm {s t : Moment} (h : s.same t = true) : t.same s = true := by
  unfold same at h ⊢
  cases hs : s.offset <;> cases ht : t.offset <;> simp_all

theorem same_trans {r s t : Moment} (h : r.same s = true) (h' : s.same t = true) : r.same t = true := by
  unfold same at h h' ⊢
  cases hr : r.offset <;> cases hs : s.offset <;> cases ht : t.offset <;> simp_all

end Moment

namespace Value

/-! ## The cases of equal keys -/

/-- **Two equal keys** are of one kind, or they are numbers. -/
inductive Alike : Value → Value → Prop
  | null : Alike .null .null
  | pending : Alike .pending .pending
  | text (s : String) : Alike (.text s) (.text s)
  | bytes (bs : List UInt8) : Alike (.bytes bs) (.bytes bs)
  | moment {s t : Moment} (h : s.same t = true) : Alike (.moment s) (.moment t)
  | tuple {vs ws : List Value} (h : equalItems vs ws = true) : Alike (.tuple vs) (.tuple ws)
  | number {v w : Value} (hv : v.isNumber = true) (h : v.sameNumber w = true) : Alike v w

theorem alike_of_equal {v w : Value} (hv : v.isKey = true) (h : v.equal w = true) : Alike v w := by
  unfold equal at h
  split at h
  · exact .null
  · exact .pending
  · obtain rfl := beq_iff_eq.mp h
    exact .text _
  · obtain rfl := beq_iff_eq.mp h
    exact .bytes _
  · exact .moment h
  · simp [isKey] at hv
  · exact .tuple h
  · simp [isKey] at hv
  · obtain ⟨n, hn, -⟩ := sameNumber_iff.mp h
    exact .number (isNumber_of_number? hn) h

mutual

theorem equal_symm {v w : Value} (hv : v.isKey = true) (h : v.equal w = true) : w.equal v = true := by
  cases alike_of_equal hv h with
  | null => rfl
  | pending => rfl
  | text s => simp [equal]
  | bytes bs => simp [equal]
  | moment hsame => simpa [equal] using Moment.same_symm hsame
  | tuple hitems =>
    simp only [isKey] at hv
    simpa [equal] using equalItems_symm hv hitems
  | number hnumber hsame =>
    obtain ⟨n, -, hn⟩ := sameNumber_iff.mp hsame
    rw [equal_of_isNumber (isNumber_of_number? hn)]
    exact sameNumber_symm hsame
termination_by sizeOf v

theorem equalItems_symm {vs ws : List Value} (hv : areKeys vs = true) (h : equalItems vs ws = true) :
    equalItems ws vs = true := by
  match vs, ws with
  | [], [] => rfl
  | [], _ :: _ => simp [equalItems] at h
  | _ :: _, [] => simp [equalItems] at h
  | v :: vs, w :: ws =>
    simp only [areKeys, equalItems, Bool.and_eq_true] at hv h ⊢
    exact ⟨equal_symm hv.1 h.1, equalItems_symm hv.2 h.2⟩
termination_by sizeOf vs

end

mutual

/-- What equals a key is a key. -/
theorem isKey_of_equal {v w : Value} (hv : v.isKey = true) (h : v.equal w = true) : w.isKey = true := by
  cases alike_of_equal hv h with
  | null => rfl
  | pending => rfl
  | text s => rfl
  | bytes bs => rfl
  | moment hsame => rfl
  | tuple hitems =>
    simp only [isKey] at hv ⊢
    exact areKeys_of_equalItems hv hitems
  | number hnumber hsame =>
    obtain ⟨n, -, hn⟩ := sameNumber_iff.mp hsame
    exact isKey_of_number? hn
termination_by sizeOf v

theorem areKeys_of_equalItems {vs ws : List Value} (hv : areKeys vs = true) (h : equalItems vs ws = true) :
    areKeys ws = true := by
  match vs, ws with
  | [], [] => rfl
  | [], _ :: _ => simp [equalItems] at h
  | _ :: _, [] => simp [equalItems] at h
  | v :: vs, w :: ws =>
    simp only [areKeys, equalItems, Bool.and_eq_true] at hv h ⊢
    exact ⟨isKey_of_equal hv.1 h.1, areKeys_of_equalItems hv.2 h.2⟩
termination_by sizeOf vs

end

mutual

theorem equal_trans {u v w : Value} (hu : u.isKey = true) (h : u.equal v = true) (h' : v.equal w = true) :
    u.equal w = true := by
  cases alike_of_equal hu h with
  | null => exact h'
  | pending => exact h'
  | text s => exact h'
  | bytes bs => exact h'
  | moment hsame =>
    -- what equals a moment is a moment
    cases w with
    | moment r =>
      simp only [equal] at h' ⊢
      exact Moment.same_trans hsame h'
    | _ => simp [equal, sameNumber, finiteNumber?, infinite?] at h'
  | tuple hitems =>
    cases w with
    | tuple ws =>
      simp only [equal, isKey] at hu h' ⊢
      exact equalItems_trans hu hitems h'
    | _ => simp [equal, sameNumber, finiteNumber?, infinite?] at h'
  | number hnumber hsame =>
    obtain ⟨n, -, hn⟩ := sameNumber_iff.mp hsame
    rw [equal_of_isNumber (isNumber_of_number? hn)] at h'
    rw [equal_of_isNumber hnumber]
    exact sameNumber_trans hsame h'
termination_by sizeOf u

theorem equalItems_trans {us vs ws : List Value} (hu : areKeys us = true) (h : equalItems us vs = true)
    (h' : equalItems vs ws = true) : equalItems us ws = true := by
  match us, vs, ws with
  | [], [], [] => rfl
  | [], [], _ :: _ => simp [equalItems] at h'
  | [], _ :: _, _ => simp [equalItems] at h
  | _ :: _, [], _ => simp [equalItems] at h
  | _ :: _, _ :: _, [] => simp [equalItems] at h'
  | u :: us, v :: vs, w :: ws =>
    simp only [areKeys, equalItems, Bool.and_eq_true] at hu h h' ⊢
    exact ⟨equal_trans hu.1 h.1 h'.1, equalItems_trans hu.2 h.2 h'.2⟩
termination_by sizeOf us

end

theorem equal_text_iff {v : Value} {s : String} : v.equal (.text s) = true ↔ v = .text s := by
  cases v with
  | text t => simp [equal]
  | _ => simp [equal, sameNumber, finiteNumber?, infinite?]

theorem isNull_iff {v : Value} : v.isNull = true ↔ v = .null := by
  cases v with
  | null => simp [isNull]
  | _ => simp [isNull]

end ModelStore.Value

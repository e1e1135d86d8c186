import Mathlib.Algebra.Field.Rat
import Mathlib.Algebra.Order.Ring.Rat
import Mathlib.Tactic.NormNum
import Mathlib.Tactic.Ring
import ModelStore.Number.Decimal

/-!
# Whole decimals

The value of a finite decimal is a rational number, `± c · 10^e`. Whether it is whole is decided without a fraction: the
trailing zeros of the coefficient are moved into the power of ten, which does not change the value (`reduced_spec`), and
then the power decides, since a coefficient that does not end in zero cannot be divided by ten. **So a decimal is found
to stand for a whole number exactly if its value is that number** (`toInt?_eq_some_iff`), whatever its scale and
however large.
-/

namespace ModelStore.Decimal

/-- The value of `± c · 10^e`. -/
def value (negative : Bool) (c : Nat) (e : Int) : ℚ := (if negative then -1 else 1) * (c * 10 ^ e)

/-! ## Trailing zeros -/

theorem reducedBy_value (fuel c : Nat) (e : Int) :
    ((reducedBy fuel c e).1 : ℚ) * 10 ^ (reducedBy fuel c e).2 = c * 10 ^ e := by
  induction fuel generalizing c e with
  | zero => rfl
  | succ fuel ih =>
    unfold reducedBy
    split
    case isTrue hzero =>
      have hten : (c : ℚ) = (c / 10 : Nat) * 10 := by
        exact_mod_cast (Nat.div_mul_cancel (Nat.dvd_of_mod_eq_zero hzero)).symm
      calc ((reducedBy fuel (c / 10) (e + 1)).1 : ℚ) * 10 ^ (reducedBy fuel (c / 10) (e + 1)).2
          = (c / 10 : Nat) * 10 ^ (e + 1) := ih (c / 10) (e + 1)
        _ = (c / 10 : Nat) * 10 * 10 ^ e := by
          rw [zpow_add_one₀ (by norm_num)]
          ring
        _ = c * 10 ^ e := by rw [← hten]
    case isFalse => rfl

/-- With as many steps as the coefficient has bits, no zero is left. -/
theorem reducedBy_mod {fuel c : Nat} (e : Int) (hc : c ≠ 0) (hfuel : c < 2 ^ (fuel + 1)) :
    (reducedBy fuel c e).1 % 10 ≠ 0 := by
  induction fuel generalizing c e with
  | zero =>
    obtain rfl : c = 1 := by omega
    show 1 % 10 ≠ 0
    decide
  | succ fuel ih =>
    unfold reducedBy
    split
    case isTrue hzero =>
      have hpower : 2 ^ (fuel + 1 + 1) = 2 * 2 ^ (fuel + 1) := Nat.pow_succ'
      exact ih (e + 1) (by omega) (by omega)
    case isFalse hdigit => exact hdigit

theorem reduced_spec {c : Nat} (hc : c ≠ 0) (e : Int) :
    ((reduced c e).1 : ℚ) * 10 ^ (reduced c e).2 = c * 10 ^ e ∧ (reduced c e).1 % 10 ≠ 0 := by
  unfold reduced
  rw [if_neg hc]
  exact ⟨reducedBy_value c.log2 c e, reducedBy_mod e hc Nat.lt_log2_self⟩

/-! ## Whole values -/

theorem value_eq_iff {negative : Bool} {c : Nat} {e n : Int} :
    value negative c e = n ↔ (c : ℚ) * 10 ^ e = (if negative then -n else n : Int) := by
  cases negative with
  | false => simp [value]
  | true =>
    simp only [value, if_true, neg_one_mul, Int.cast_neg]
    exact neg_eq_iff_eq_neg

/-- Below one the power of ten takes digits off, and the last is no zero. -/
theorem nonneg_of_whole {c : Nat} {e n : Int} (hdigit : c % 10 ≠ 0) (h : (c : ℚ) * 10 ^ e = n) : 0 ≤ e := by
  by_contra hneg
  obtain ⟨k, rfl⟩ : ∃ k : Nat, e = -((k + 1 : Nat) : Int) := ⟨(-e - 1).toNat, by omega⟩
  have hscaled : (c : ℚ) = n * 10 ^ (k + 1) := by
    rw [← h, zpow_neg, zpow_natCast, mul_assoc, inv_mul_cancel₀ (by positivity), mul_one]
  have hwhole : (c : Int) = n * 10 ^ (k + 1) := by exact_mod_cast hscaled
  have hten : (10 : Int) ∣ c := by
    rw [hwhole, pow_succ']
    exact Dvd.dvd.mul_left (dvd_mul_right 10 _) n
  omega

/-- **A decimal stands for a whole number exactly if its value is that number.** -/
theorem toInt?_eq_some_iff {negative : Bool} {c : Nat} {e n : Int} :
    (Decimal.finite negative c e).toInt? = some n ↔ value negative c e = n := by
  rw [value_eq_iff]
  by_cases hc : c = 0
  · subst hc
    cases negative <;> simp [toInt?, reduced, eq_comm]
  · obtain ⟨hvalue, hdigit⟩ := reduced_spec hc e
    rw [← hvalue]
    dsimp only [toInt?]
    generalize reduced c e = shortened at hdigit ⊢
    obtain ⟨c', e'⟩ := shortened
    dsimp only at hdigit ⊢
    split
    case isTrue hpower =>
      obtain ⟨k, rfl⟩ := Int.eq_ofNat_of_zero_le hpower
      have hcast : (c' : ℚ) * 10 ^ (k : Int) = ((c' * Nat.pow 10 k : Nat) : Int) := by
        push_cast
        rw [zpow_natCast]
        norm_cast
      rw [hcast, Int.cast_inj, Option.some.injEq]
      cases negative with
      | false => exact Iff.rfl
      | true => exact neg_eq_iff_eq_neg
    case isFalse hpower =>
      exact iff_of_false (fun h => by cases h) fun h => hpower (nonneg_of_whole hdigit h)

end ModelStore.Decimal

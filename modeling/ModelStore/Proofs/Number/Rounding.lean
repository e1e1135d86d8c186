import Mathlib.Algebra.Order.Field.Power
import Mathlib.Algebra.Order.Ring.Rat
import Mathlib.Tactic.FieldSimp
import Mathlib.Tactic.NormNum
import Mathlib.Tactic.Ring
import ModelStore.Number.Binary64

/-!
# To which place a quotient is rounded

A quotient is rounded at the exponent at which it has a mantissa of 53 bits. The exponent is guessed from the lengths of
numerator and denominator, and corrected by one comparison. **There is one such exponent, and the guess finds it**
(`exponentFor_of_fits`), so whoever knows the binary place of a quotient need not follow the guess: the rounded number
has the mantissa that `roundHalfEven` gives there (`ofRatio_of_fits`).
-/

namespace ModelStore

/-- What both parts of a quotient are multiplied by does not count. -/
theorem roundHalfEven_mul_left {k : Nat} (hk : 0 < k) (num den : Nat) :
    roundHalfEven (k * num) (k * den) = roundHalfEven num den := by
  unfold roundHalfEven
  rw [Nat.mul_div_mul_left num den hk, Nat.mul_mod_mul_left]
  have hlow : 2 * (k * (num % den)) < k * den ↔ 2 * (num % den) < den := by
    rw [Nat.mul_left_comm]
    exact Nat.mul_lt_mul_left hk
  have hhigh : k * den < 2 * (k * (num % den)) ↔ den < 2 * (num % den) := by
    rw [Nat.mul_left_comm]
    exact Nat.mul_lt_mul_left hk
  simp only [hlow, hhigh]

namespace Binary64

variable {num den : Nat} {e : Int}

/-- At an exponent a quotient has a mantissa of 53 bits. -/
def Fits (num den : Nat) (e : Int) : Prop :=
  2 ^ 52 * (scaled num den e).2 ≤ (scaled num den e).1 ∧ (scaled num den e).1 < 2 ^ 53 * (scaled num den e).2

theorem scaled_of_nonneg (num den k : Nat) : scaled num den (k : Int) = (num, den * 2 ^ k) := by
  unfold scaled
  rw [if_pos (Int.natCast_nonneg k)]
  rfl

theorem scaled_of_neg (num den k : Nat) : scaled num den (-(k : Int)) = (num * 2 ^ k, den) := by
  cases k with
  | zero => simp [scaled]
  | succ k =>
    unfold scaled
    rw [if_neg (by omega), neg_neg]
    rfl

/-- Scaling is by a power of two. -/
theorem le_scaled_iff (num : Nat) (e : Int) (hden : 0 < den) (k : Nat) :
    k * (scaled num den e).2 ≤ (scaled num den e).1 ↔ (k : ℚ) * 2 ^ e ≤ num / den := by
  have hpos : (0 : ℚ) < den := by exact_mod_cast hden
  rw [le_div_iff₀ hpos, ← Nat.cast_le (α := ℚ)]
  by_cases he : 0 ≤ e
  · obtain ⟨j, rfl⟩ := Int.eq_ofNat_of_zero_le he
    rw [scaled_of_nonneg, zpow_natCast]
    push_cast
    rw [mul_assoc, mul_comm (den : ℚ)]
  · obtain ⟨j, rfl⟩ : ∃ j : Nat, e = -(j : Int) := ⟨(-e).toNat, by omega⟩
    have hpower : (0 : ℚ) < 2 ^ j := by positivity
    rw [scaled_of_neg, zpow_neg, zpow_natCast, mul_right_comm, ← div_eq_mul_inv, div_le_iff₀ hpower]
    push_cast
    rfl

theorem fits_iff (hden : 0 < den) :
    Fits num den e ↔ (2 : ℚ) ^ (52 + e) ≤ num / den ∧ (num / den : ℚ) < 2 ^ (53 + e) := by
  have hlow := le_scaled_iff num e hden (2 ^ 52)
  have hhigh := le_scaled_iff num e hden (2 ^ 53)
  have hpower (k : Nat) : ((2 ^ k : Nat) : ℚ) * 2 ^ e = 2 ^ ((k : Int) + e) := by
    rw [zpow_add₀ (by norm_num), zpow_natCast]
    push_cast
    rfl
  rw [hpower] at hlow hhigh
  unfold Fits
  rw [hlow, ← not_le, hhigh, not_le]
  rfl

/-- The lengths of numerator and denominator give the quotient up to a factor of two on both sides. -/
theorem quotient_bounds (hnum : 0 < num) (hden : 0 < den) :
    (2 : ℚ) ^ ((num.log2 : Int) - den.log2 - 1) < num / den ∧
      (num / den : ℚ) < 2 ^ ((num.log2 : Int) - den.log2 + 1) := by
  have hpos : (0 : ℚ) < den := by exact_mod_cast hden
  have hnumLow : (2 : ℚ) ^ num.log2 ≤ num := by exact_mod_cast Nat.log2_self_le hnum.ne'
  have hnumHigh : (num : ℚ) < 2 ^ (num.log2 + 1) := by exact_mod_cast Nat.lt_log2_self
  have hdenLow : (2 : ℚ) ^ den.log2 ≤ den := by exact_mod_cast Nat.log2_self_le hden.ne'
  have hdenHigh : (den : ℚ) < 2 ^ (den.log2 + 1) := by exact_mod_cast Nat.lt_log2_self
  have hlow : (2 : ℚ) ^ ((num.log2 : Int) - den.log2 - 1) = 2 ^ num.log2 / 2 ^ (den.log2 + 1) := by
    rw [show (num.log2 : Int) - den.log2 - 1 = (num.log2 : Int) - ((den.log2 + 1 : Nat) : Int) by omega,
      zpow_sub₀ (by norm_num), zpow_natCast, zpow_natCast]
  have hhigh : (2 : ℚ) ^ ((num.log2 : Int) - den.log2 + 1) = 2 ^ (num.log2 + 1) / 2 ^ den.log2 := by
    rw [show (num.log2 : Int) - den.log2 + 1 = ((num.log2 + 1 : Nat) : Int) - (den.log2 : Int) by omega,
      zpow_sub₀ (by norm_num), zpow_natCast, zpow_natCast]
  rw [hlow, hhigh, div_lt_div_iff₀ (by positivity) hpos, div_lt_div_iff₀ hpos (by positivity)]
  constructor
  · calc (2 : ℚ) ^ num.log2 * den ≤ num * den := by gcongr
      _ < num * 2 ^ (den.log2 + 1) := by gcongr
  · calc (num : ℚ) * 2 ^ den.log2 ≤ num * den := by gcongr
      _ < 2 ^ (num.log2 + 1) * den := by gcongr

/-- **The guess finds the exponent.** -/
theorem exponentFor_of_fits (hnum : 0 < num) (hden : 0 < den) (h : Fits num den e) (hleast : leastExponent ≤ e) :
    exponentFor num den = e := by
  obtain ⟨hlow, hhigh⟩ := (fits_iff hden).mp h
  obtain ⟨hbelow, habove⟩ := quotient_bounds hnum hden
  have hupper : 52 + e < (num.log2 : Int) - den.log2 + 1 :=
    (zpow_lt_zpow_iff_right₀ (by norm_num)).mp (lt_of_le_of_lt hlow habove)
  have hlower : (num.log2 : Int) - den.log2 - 1 < 53 + e :=
    (zpow_lt_zpow_iff_right₀ (by norm_num)).mp (lt_trans hbelow hhigh)
  unfold exponentFor
  dsimp only
  generalize hguess : (num.log2 : Int) - den.log2 - 52 = guess
  -- so the guess is the exponent or one more, and the comparison tells the two apart
  have hcompare : 2 ^ 52 * (scaled num den guess).2 ≤ (scaled num den guess).1 ↔ (2 : ℚ) ^ (52 + guess) ≤ num / den := by
    rw [le_scaled_iff num guess hden, zpow_add₀ (by norm_num)]
    norm_num
  obtain rfl | hless : e = guess ∨ e + 1 = guess := by omega
  · have hreaches : ¬ (scaled num den e).1 < Nat.pow 2 52 * (scaled num den e).2 := not_lt.mpr (hcompare.mpr hlow)
    rw [if_neg hreaches, max_eq_left hleast]
  · have hshort : (scaled num den guess).1 < Nat.pow 2 52 * (scaled num den guess).2 := by
      refine lt_of_not_ge fun hreaches => absurd (hcompare.mp hreaches) (not_le.mpr ?_)
      rwa [← hless, show 52 + (e + 1) = 53 + e by omega]
    rw [if_pos hshort, show guess - 1 = e by omega, max_eq_left hleast]

/-- **A quotient is rounded at the exponent at which it has a mantissa of 53 bits**, if it does not become the next power
of two. -/
theorem ofRatio_of_fits (negative : Bool) (hnum : 0 < num) (hden : 0 < den) (h : Fits num den e)
    (hleast : leastExponent ≤ e) (hgreatest : e ≤ greatestExponent)
    (hround : roundHalfEven (scaled num den e).1 (scaled num den e).2 < 2 ^ 53) :
    ofRatio negative num den = .finite negative (roundHalfEven (scaled num den e).1 (scaled num den e).2) e := by
  unfold ofRatio
  rw [if_neg hnum.ne', exponentFor_of_fits hnum hden h hleast]
  dsimp only
  rw [if_neg (by show _ ≠ 2 ^ 53; omega), bounded, if_neg (by omega)]

/-! ## Fractions -/

variable {i k : Nat}

theorem ratio_of_neg (m k : Nat) : ratio m (-(k : Int)) = (m, 2 ^ k) := by
  cases k with
  | zero => simp [ratio]
  | succ k =>
    unfold ratio
    rw [if_neg (by omega), neg_neg]
    rfl

/-- A whole number with a sign. -/
def signed (negative : Bool) (n : Nat) : Int := if negative then -(n : Int) else n

theorem truncate?_of_neg (negative : Bool) (m k : Nat) :
    truncate? (.finite negative m (-(k : Int))) = some (signed negative (m / 2 ^ k)) := by
  unfold truncate?
  simp only [ratio_of_neg]
  rfl

/-- A quotient below one is brought to its place by a power of two. -/
theorem ofRatio_of_scaled (negative : Bool) (hden : 0 < den) (hlow : 2 ^ 52 * den ≤ num * 2 ^ k)
    (hhigh : num * 2 ^ k < 2 ^ 53 * den) (hround : roundHalfEven (num * 2 ^ k) den < 2 ^ 53) (hk : k ≤ 1074) :
    ofRatio negative num den = .finite negative (roundHalfEven (num * 2 ^ k) den) (-(k : Int)) := by
  have hnum : 0 < num := by
    have hpos : 0 < num * 2 ^ k := by omega
    exact Nat.pos_of_mul_pos_right hpos
  have hfits : Fits num den (-(k : Int)) := by
    unfold Fits
    rw [scaled_of_neg]
    exact ⟨hlow, hhigh⟩
  have hscaled := ofRatio_of_fits negative hnum hden hfits (by unfold leastExponent; omega)
    (by unfold greatestExponent; omega) (by rw [scaled_of_neg]; exact hround)
  rwa [scaled_of_neg] at hscaled

/-- A dyadic quotient is rounded by the bits that it has too many. -/
theorem ofRatio_dyadic (negative : Bool) (hlow : 2 ^ 52 * 2 ^ i ≤ num) (hhigh : num < 2 ^ 53 * 2 ^ i)
    (hround : roundHalfEven num (2 ^ i) < 2 ^ 53) (hk : k ≤ 1074) :
    ofRatio negative num (2 ^ (k + i)) = .finite negative (roundHalfEven num (2 ^ i)) (-(k : Int)) := by
  have hpos : 0 < 2 ^ k := Nat.two_pow_pos k
  have hsplit (bound : Nat) : bound * 2 ^ (k + i) = 2 ^ k * (bound * 2 ^ i) := by
    rw [pow_add, Nat.mul_left_comm]
  have hround' : roundHalfEven (num * 2 ^ k) (2 ^ (k + i)) = roundHalfEven num (2 ^ i) := by
    rw [Nat.mul_comm num, pow_add, roundHalfEven_mul_left hpos]
  have hscaled := ofRatio_of_scaled (k := k) negative (Nat.two_pow_pos (k + i))
    (by rw [hsplit, Nat.mul_comm num]; exact Nat.mul_le_mul_left _ hlow)
    (by rw [hsplit, Nat.mul_comm num]; exact Nat.mul_lt_mul_of_pos_left hhigh hpos)
    (by rw [hround']; exact hround) hk
  rwa [hround'] at hscaled

end Binary64
end ModelStore

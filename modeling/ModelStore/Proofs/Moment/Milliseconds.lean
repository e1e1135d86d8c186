import ModelStore.Proofs.Number.Rounding
import ModelStore.Proofs.Record.Castable

/-!
# Which milliseconds a moment comes back as

A moment's milliseconds are taken from its seconds, and the seconds are a float: they are rounded to 53 bits, the
product with a thousand is rounded to 53 bits again, and the rest is cut off toward zero. So a moment that lies a whole
number of milliseconds from the epoch can come back a millisecond nearer to it.

Let `x` be the milliseconds, and `n` those brought to the binary place of the seconds, so that the seconds have the
mantissa `n / 1000`, rounded. The first rounding is off by less than half of one place, and the product is off by a
thousand times that, at most 500. What the second rounding makes of it depends on where the product lies:

* From `2 ^ 62` on a place of the product is worth 1024. **It takes back all that is off**, and the milliseconds are exact.
* Below it is worth 512. The product is a place too small if more than 256 are missing, and then the millisecond is cut
  off with the rest. That is so if `n` leaves between 256 and 500 when divided by a thousand (`Drops`).

So the milliseconds are exact or one too near to the epoch, and which it is can be told from their number alone
(`Moment.milliseconds_eq`).
-/

namespace ModelStore

open Binary64 (signed)

/-! ## Two roundings -/

/-- **Milliseconds of which one is lost.** The product lies below `2 ^ 62`, where its places are narrow, and the rounded
seconds are more than a quarter of their place too small. -/
def Drops (x : Nat) : Prop :=
  125 * 2 ^ x.log2 ≤ 64 * x ∧ 33 ≤ x * 2 ^ (58 - x.log2) % 125 ∧ x * 2 ^ (58 - x.log2) % 125 ≤ 62

instance : DecidablePred Drops := fun _ => inferInstanceAs (Decidable (_ ∧ _ ∧ _))

/-- Eighths of a second are held by their float as they are. -/
theorem not_drops_of_dvd {x : Nat} (h : 125 ∣ x) : ¬ Drops x := by
  rintro ⟨-, hlow, -⟩
  rw [Nat.mod_eq_zero_of_dvd (h.mul_right _)] at hlow
  omega

section

variable {x k : Nat}

/-- The mantissa of `x / 1000`, if the binary place of its last digit is the `k + 10`th. -/
def thousandth (x k : Nat) : Nat := roundHalfEven (1024 * (x * 2 ^ k)) 1000

theorem ofRatio_thousandth (negative : Bool) (hlow : 1000 * 2 ^ 52 ≤ 1024 * (x * 2 ^ k))
    (hhigh : 1024 * (x * 2 ^ k) < 1000 * 2 ^ 53) (hk : k ≤ 1000) :
    Binary64.ofRatio negative (1000 * x) 1000000 = .finite negative (thousandth x k) (-((k + 10 : Nat) : Int)) := by
  have hplace : 1000 * x * 2 ^ (k + 10) = 1000 * (1024 * (x * 2 ^ k)) := by ring
  have hround : roundHalfEven (1000 * x * 2 ^ (k + 10)) 1000000 = thousandth x k := by
    rw [hplace]
    exact roundHalfEven_mul_left (by decide) _ 1000
  have hnear := roundHalfEven_near (1024 * (x * 2 ^ k)) (show 0 < 1000 by decide)
  have hmantissa : thousandth x k < 2 ^ 53 := by
    unfold thousandth
    omega
  rw [← hround] at hmantissa ⊢
  exact Binary64.ofRatio_of_scaled negative (by decide) (by omega) (by omega) hmantissa (by omega)

/-- A thousand times a mantissa that is `i` bits too long is rounded by these, and then cut off. -/
theorem milliseconds?_of_neg (negative : Bool) {q i j : Nat} (hlow : 2 ^ 52 * 2 ^ i ≤ 1000 * q)
    (hhigh : 1000 * q < 2 ^ 53 * 2 ^ i) (hround : roundHalfEven (1000 * q) (2 ^ i) < 2 ^ 53) (hj : j ≤ 1074) :
    milliseconds? (.finite negative q (-((j + i : Nat) : Int))) =
      some (signed negative (roundHalfEven (1000 * q) (2 ^ i) / 2 ^ j)) := by
  unfold milliseconds? Binary64.timesNat
  simp only [Binary64.ratio_of_neg]
  rw [Nat.mul_comm q, Binary64.ofRatio_dyadic negative hlow hhigh hround hj, Binary64.truncate?_of_neg]

/-- From `2 ^ 62` on the product is rounded back to what it comes from. -/
theorem milliseconds?_of_wide (negative : Bool) (hlow : 2 ^ 62 ≤ 1024 * (x * 2 ^ k))
    (hhigh : 1024 * (x * 2 ^ k) < 1000 * 2 ^ 53) (hk : k ≤ 1000) :
    milliseconds? (.finite negative (thousandth x k) (-((k + 10 : Nat) : Int))) =
      some (signed negative x) := by
  obtain ⟨hbelow, habove⟩ := roundHalfEven_near (1024 * (x * 2 ^ k)) (show 0 < 1000 by decide)
  change 2 * (1024 * (x * 2 ^ k)) ≤ (2 * thousandth x k + 1) * 1000 at hbelow
  change 2 * (thousandth x k * 1000) ≤ 2 * (1024 * (x * 2 ^ k)) + 1000 at habove
  have hback : roundHalfEven (1000 * thousandth x k) (2 ^ 10) = x * 2 ^ k := by
    obtain ⟨hbelow', habove'⟩ := roundHalfEven_near (1000 * thousandth x k) (show 0 < 2 ^ 10 by decide)
    omega
  have hcut : x * 2 ^ k / 2 ^ k = x := Nat.mul_div_cancel x (Nat.two_pow_pos k)
  rw [milliseconds?_of_neg negative (by omega) (by omega) (by omega) (by omega), hback, hcut]

/-- The seconds are never half way between two places, since they divide by eight and 500 does not. -/
theorem thousandth_cases (x k : Nat) :
    (1024 * (x * 2 ^ k) % 1000 < 500 ∧
      1000 * thousandth x k + 1024 * (x * 2 ^ k) % 1000 = 1024 * (x * 2 ^ k)) ∨
    (500 < 1024 * (x * 2 ^ k) % 1000 ∧
      1000 * thousandth x k + 1024 * (x * 2 ^ k) % 1000 = 1024 * (x * 2 ^ k) + 1000) := by
  unfold thousandth roundHalfEven
  generalize x * 2 ^ k = u
  dsimp only
  split
  · omega
  · split
    · omega
    · omega

/-- More is missing from the seconds than a quarter of their place. -/
def Short (x k : Nat) : Prop := 256 < 1024 * (x * 2 ^ k) % 1000 ∧ 1024 * (x * 2 ^ k) % 1000 < 500

instance : Decidable (Short x k) := inferInstanceAs (Decidable (_ ∧ _))

/-- Below `2 ^ 62` the product is then a place too small. -/
theorem roundHalfEven_of_short (h : Short x k) :
    roundHalfEven (1000 * thousandth x k) 512 = 2 * (x * 2 ^ k) - 1 := by
  have hcases := thousandth_cases x k
  unfold Short at h
  generalize thousandth x k = q at hcases ⊢
  generalize x * 2 ^ k = u at h hcases ⊢
  have hbetween : 512 * (2 * u - 1) < 1000 * q + 256 ∧ 1000 * q < 512 * (2 * u - 1) + 256 := by omega
  obtain ⟨hbelow, habove⟩ := roundHalfEven_near (1000 * q) (show 0 < 512 by decide)
  omega

/-- It is not too small otherwise: of two places that are equally near it takes the even one. -/
theorem roundHalfEven_of_not_short (h : ¬ Short x k) :
    roundHalfEven (1000 * thousandth x k) 512 = 2 * (x * 2 ^ k) ∨
      roundHalfEven (1000 * thousandth x k) 512 = 2 * (x * 2 ^ k) + 1 := by
  have hcases := thousandth_cases x k
  unfold Short at h
  generalize thousandth x k = q at hcases ⊢
  generalize x * 2 ^ k = u at h hcases ⊢
  unfold roundHalfEven
  dsimp only
  split
  · omega
  · split
    · omega
    · omega

/-- The milliseconds that come of that: what the product exceeds them by is less than one. -/
theorem narrow_div (hx : 0 < x) :
    roundHalfEven (1000 * thousandth x k) 512 / 2 ^ (k + 1) = if Short x k then x - 1 else x := by
  have hpower : 2 ≤ 2 ^ (k + 1) := by
    rw [pow_succ]
    have := Nat.two_pow_pos k
    omega
  have hdouble : 2 * (x * 2 ^ k) = x * 2 ^ (k + 1) := by ring
  split
  case isTrue hshort =>
    obtain ⟨z, rfl⟩ : ∃ z, x = z + 1 := ⟨x - 1, by omega⟩
    have hrest : (z + 1) * 2 ^ (k + 1) - 1 = (2 ^ (k + 1) - 1) + z * 2 ^ (k + 1) := by
      rw [Nat.succ_mul]
      omega
    rw [roundHalfEven_of_short hshort, hdouble, hrest, Nat.add_mul_div_right _ z (by omega),
      Nat.div_eq_of_lt (by omega), Nat.zero_add, Nat.add_sub_cancel]
  case isFalse hshort =>
    rcases roundHalfEven_of_not_short hshort with heq | heq
    · rw [heq, hdouble, Nat.mul_div_cancel x (by omega)]
    · rw [heq, hdouble, Nat.add_comm, Nat.add_mul_div_right 1 x (by omega), Nat.div_eq_of_lt (by omega), Nat.zero_add]

theorem milliseconds?_of_narrow (negative : Bool) (hlow : 1000 * 2 ^ 52 ≤ 1024 * (x * 2 ^ k))
    (hhigh : 1024 * (x * 2 ^ k) < 2 ^ 62) (hk : k ≤ 1000) :
    milliseconds? (.finite negative (thousandth x k) (-((k + 10 : Nat) : Int))) =
      some (signed negative (if Short x k then x - 1 else x)) := by
  have hx : 0 < x := by
    have hpos : 0 < x * 2 ^ k := by omega
    exact Nat.pos_of_mul_pos_right hpos
  have hbounds : roundHalfEven (1000 * thousandth x k) 512 < 2 ^ 53 := by
    by_cases hshort : Short x k
    · have := roundHalfEven_of_short hshort
      omega
    · have := roundHalfEven_of_not_short hshort
      omega
  have hcases := thousandth_cases x k
  rw [← narrow_div hx]
  exact milliseconds?_of_neg (i := 9) (j := k + 1) negative (by omega) (by omega) hbounds (by omega)

theorem milliseconds?_zero (den : Nat) : milliseconds? (Binary64.ofRatio false 0 den) = some 0 := by
  have hzero (den : Nat) : Binary64.ofRatio false 0 den = .finite false 0 (-(1074 : Nat) : Int) := if_pos rfl
  unfold milliseconds? Binary64.timesNat
  rw [hzero]
  simp only [Binary64.ratio_of_neg, Nat.zero_mul, hzero, Binary64.truncate?_of_neg, Nat.zero_div]
  rfl

/-- Where the product lies below `2 ^ 62`, the binary place of the seconds follows from the length of `x`. -/
theorem drops_iff_short (hbits : x.log2 < 52) (hnarrow : 125 * 2 ^ x.log2 ≤ 64 * x) :
    Drops x ↔ Short x (51 - x.log2) := by
  have hpower : x * 2 ^ (58 - x.log2) = 128 * (x * 2 ^ (51 - x.log2)) := by
    rw [show 58 - x.log2 = 51 - x.log2 + 7 by omega, pow_add]
    ring
  have heighth (u : Nat) : 1024 * u % 1000 = 8 * (128 * u % 125) := by omega
  unfold Drops Short
  rw [hpower, heighth]
  omega

/-- **A whole number of milliseconds comes back from its seconds, or one less does.** -/
theorem milliseconds?_thousandth (negative : Bool) (hx : 0 < x) (hbound : x < 2 ^ 52) :
    milliseconds? (Binary64.ofRatio negative (1000 * x) 1000000) =
      some (signed negative (if Drops x then x - 1 else x)) := by
  have hfirst : 2 ^ x.log2 ≤ x := Nat.log2_self_le hx.ne'
  have hlast : x < 2 ^ (x.log2 + 1) := Nat.lt_log2_self
  have hbits : x.log2 < 52 := (Nat.log2_lt hx.ne').mpr hbound
  have hdrops (hnarrow : 125 * 2 ^ x.log2 ≤ 64 * x) := drops_iff_short hbits hnarrow
  have hkept (hwide : 64 * x < 125 * 2 ^ x.log2) : ¬ Drops x := fun h => absurd h.1 (by omega)
  generalize x.log2 = b at hfirst hlast hbits hdrops hkept
  by_cases hwide : 64 * x < 125 * 2 ^ b
  · have hplace : 2 ^ b * 2 ^ (52 - b) = 2 ^ 52 := by rw [← pow_add, Nat.add_sub_cancel' (by omega)]
    have hlow : 2 ^ b * 2 ^ (52 - b) ≤ x * 2 ^ (52 - b) := Nat.mul_le_mul_right _ hfirst
    have hhigh : 64 * x * 2 ^ (52 - b) < 125 * 2 ^ b * 2 ^ (52 - b) :=
      Nat.mul_lt_mul_of_pos_right hwide (Nat.two_pow_pos _)
    rw [hplace] at hlow
    rw [Nat.mul_assoc, Nat.mul_assoc, hplace] at hhigh
    rw [ofRatio_thousandth negative (k := 52 - b) (by omega) (by omega) (by omega),
      milliseconds?_of_wide negative (by omega) (by omega) (by omega), if_neg (hkept hwide)]
  · have hplace : 2 ^ b * 2 ^ (51 - b) = 2 ^ 51 := by rw [← pow_add, Nat.add_sub_cancel' (by omega)]
    have hlow : 125 * 2 ^ b * 2 ^ (51 - b) ≤ 64 * x * 2 ^ (51 - b) := Nat.mul_le_mul_right _ (by omega)
    have hhigh : x * 2 ^ (51 - b) < 2 ^ (b + 1) * 2 ^ (51 - b) :=
      Nat.mul_lt_mul_of_pos_right hlast (Nat.two_pow_pos _)
    rw [Nat.mul_assoc, Nat.mul_assoc, hplace] at hlow
    rw [pow_succ, Nat.mul_right_comm, hplace] at hhigh
    rw [ofRatio_thousandth negative (k := 51 - b) (by omega) (by omega) (by omega),
      milliseconds?_of_narrow negative (by omega) (by omega) (by omega)]
    simp only [hdrops (by omega)]

end

/-! ## Moments -/

namespace Moment

/-- A date of the four-digit years and a time of day, in a zone less than a day away. -/
structure Civil (t : Moment) : Prop where
  year : 1 ≤ t.year ∧ t.year ≤ 9999
  month : 1 ≤ t.month ∧ t.month ≤ 12
  day : 1 ≤ t.day ∧ t.day ≤ 31
  hour : t.hour < 24
  minute : t.minute < 60
  second : t.second < 60
  microsecond : t.microsecond < 1000000
  offset : ∀ offset, t.offset = some offset → offset.natAbs < 86400000000

variable {t : Moment} {m : Int}

theorem Civil.daysSinceEpoch_lt (h : t.Civil) : (daysSinceEpoch t.year t.month t.day).natAbs < 4000000 := by
  obtain ⟨hyear, hmonth, hday⟩ := And.intro h.year (And.intro h.month h.day)
  unfold daysSinceEpoch
  dsimp only
  rw [Int.fdiv_eq_ediv_of_nonneg _ (by decide)]
  split <;> omega

/-- Every instant is far within the whole numbers that the seconds' floats tell apart. -/
theorem Civil.instant_lt (h : t.Civil) : t.instant.natAbs < 1000 * 2 ^ 52 := by
  have hdays := h.daysSinceEpoch_lt
  obtain ⟨hhour, hminute, hsecond, hmicrosecond⟩ :=
    And.intro h.hour (And.intro h.minute (And.intro h.second h.microsecond))
  have hoffset : (t.offset.getD 0).natAbs < 86400000000 := by
    cases hzone : t.offset with
    | none => decide
    | some offset => exact h.offset offset hzone
  unfold instant wallClock
  omega

/-- **A moment that lies a whole number of milliseconds from the epoch comes back as that number, or one nearer.** -/
theorem milliseconds_eq (hcivil : t.Civil) (hwhole : t.instant = 1000 * m) :
    t.milliseconds = if Drops m.natAbs then m - m.sign else m := by
  have hbound : m.natAbs < 2 ^ 52 := by
    have := hcivil.instant_lt
    omega
  have hparts : t.instant.natAbs = 1000 * m.natAbs := by omega
  unfold milliseconds seconds
  rw [hparts, hwhole]
  rcases Int.lt_trichotomy m 0 with hnegative | rfl | hpositive
  · rw [milliseconds?_thousandth _ (by omega) hbound, decide_eq_true (by omega), Int.sign_eq_neg_one_of_neg hnegative,
      Option.getD_some, signed, if_pos rfl]
    split
    · omega
    · omega
  · show (milliseconds? (Binary64.ofRatio false 0 1000000)).getD 0 = 0
    rw [milliseconds?_zero]
    rfl
  · rw [milliseconds?_thousandth _ (by omega) hbound, decide_eq_false (by omega), Int.sign_eq_one_of_pos hpositive,
      Option.getD_some, signed, if_neg Bool.false_ne_true]
    split
    · omega
    · omega

end Moment

namespace Model

variable {model : Model} {row record : Record} {column : String} {t : Moment} {m : Int}

theorem get?_castRecord_of_moment (h : model.castRecord row = .ok record) (hmem : column ∈ timeColumns)
    (hget : row.get? (.text column) = some (.moment t)) :
    record.get? (.text column) = some (.int t.milliseconds) := by
  obtain ⟨w, hw, htime⟩ := get?_castRecord_of_holds h hmem hget rfl
  obtain rfl := Except.ok.inj hw
  exact htime

/-- **When a stored moment comes back as its milliseconds.** A row of which all times can be cast is cast, and a moment
among them that lies `m` milliseconds from the epoch becomes `m`, unless a millisecond is lost; then it becomes the one
next to `m` toward the epoch. -/
theorem castRow_milliseconds_iff (model : Model) (row : Record)
    (hgoes : ∀ column ∈ timeColumns, ∀ v, row.get? (.text column) = some v → ¬ v.Stops Decimal.powerBound) :
    ∃ record, model.castRow (.map row) = .ok (some record) ∧
      ∀ column ∈ timeColumns, ∀ t m, row.get? (.text column) = some (.moment t) → t.Civil → t.instant = 1000 * m →
        (record.get? (.text column) = some (.int m) ↔ ¬ Drops m.natAbs) ∧
        (Drops m.natAbs → record.get? (.text column) = some (.int (m - m.sign))) := by
  obtain ⟨record, hrecord⟩ := exists_castRecord_iff.mpr hgoes
  refine ⟨record, castRow_map_iff.mpr hrecord, ?_⟩
  intro column hmem t m hget hcivil hwhole
  rw [get?_castRecord_of_moment hrecord hmem hget, Moment.milliseconds_eq hcivil hwhole]
  by_cases hdrops : Drops m.natAbs
  · have hsign : m.sign ≠ 0 := by
      intro hzero
      obtain rfl := Int.sign_eq_zero_iff_zero.mp hzero
      exact absurd hdrops (not_drops_of_dvd (Nat.dvd_zero 125))
    rw [if_pos hdrops]
    refine ⟨iff_of_false ?_ (not_not_intro hdrops), fun _ => rfl⟩
    intro hsame
    have hnumber : m - m.sign = m := Value.int.inj (Option.some.inj hsame)
    omega
  · rw [if_neg hdrops]
    exact ⟨iff_of_true rfl hdrops, fun h => absurd h hdrops⟩

/-- A leap day without a zone, and a moment before the epoch, west of Greenwich. -/
def dated : Record :=
  [(.text "created_at", .moment ⟨2024, 2, 29, 12, 30, 0, 123000, none⟩),
   (.text "updated_at", .moment ⟨1969, 12, 31, 18, 59, 58, 999000, some (-18000000000)⟩)]

theorem castRow_milliseconds_of_dated :
    ∃ record, orders.castRow (.map dated) = .ok (some record) ∧
      record.get? (.text "created_at") = some (.int 1709209800123) ∧
      record.get? (.text "updated_at") = some (.int (-1000)) := by
  have hmoment : ∀ t, ¬ (Value.moment t).Stops Decimal.powerBound := by
    rintro t (⟨hd, -⟩ | ⟨hmarked, -⟩)
    · cases hd
    · cases hmarked
  have hgoes : ∀ column ∈ timeColumns, ∀ v, dated.get? (.text column) = some v → ¬ v.Stops Decimal.powerBound := by
    intro column hmem v hget
    simp only [timeColumns, List.mem_cons, List.not_mem_nil, or_false] at hmem
    rcases hmem with rfl | rfl
    · obtain rfl := Option.some.inj ((show dated.get? (.text "created_at") = _ from rfl).symm.trans hget)
      exact hmoment _
    · obtain rfl := Option.some.inj ((show dated.get? (.text "updated_at") = _ from rfl).symm.trans hget)
      exact hmoment _
  have hleap : Moment.Civil ⟨2024, 2, 29, 12, 30, 0, 123000, none⟩ := by
    constructor <;> simp
  have hwest : Moment.Civil ⟨1969, 12, 31, 18, 59, 58, 999000, some (-18000000000)⟩ := by
    constructor <;> simp
  obtain ⟨record, hrecord, htimes⟩ := castRow_milliseconds_iff orders dated hgoes
  obtain ⟨hexact, -⟩ := htimes "created_at" (by decide) _ 1709209800123 rfl hleap (by decide)
  obtain ⟨-, hlost⟩ := htimes "updated_at" (by decide) _ (-1001) rfl hwest (by decide)
  exact ⟨record, hrecord, hexact.mpr (by decide +kernel), hlost (by decide +kernel)⟩

/-- A second and a millisecond after the epoch. -/
def shortly : Moment := ⟨1970, 1, 1, 0, 0, 1, 1000, some 0⟩

/-- The millisecond is lost. -/
theorem millisecond_is_lost :
    shortly.instant = 1000 * 1001 ∧
      orders.castRow (.map [(.text "created_at", .moment shortly)]) =
        .ok (some [(.text "created_at", .int 1000)]) := by
  have hcivil : shortly.Civil := by
    constructor <;> simp [shortly]
  have hinstant : shortly.instant = 1000 * 1001 := by decide
  have hmilliseconds : shortly.milliseconds = 1000 := by
    rw [Moment.milliseconds_eq hcivil hinstant]
    decide +kernel
  have htime : Record.castTime [(.text "created_at", .moment shortly)] "created_at" =
      .ok [(.text "created_at", .int 1000)] := by
    rw [← hmilliseconds]
    rfl
  refine ⟨hinstant, ?_⟩
  rw [castRow_map, castRecord, timeColumns, List.foldlM_cons, htime]
  rfl

end Model

end ModelStore

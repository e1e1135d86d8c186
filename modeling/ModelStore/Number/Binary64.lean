/-!
# 64-bit floating-point numbers, exactly

A 64-bit float is a dyadic rational, an infinity or not a number at all. Here it is represented as that:
sign, whole mantissa and power of two. Nothing is computed in machine arithmetic: an operation takes the
exact quotient of two natural numbers and rounds it **once**, to the nearest representable number, ties
to the even mantissa. `Binary64.ofRatio` is that rounding, and the only place where precision is lost.

A finite number is kept in its one normal form, `mantissa < 2^53` with `2^52 ≤ mantissa` unless the
exponent is the least one, `-1074`; so two finite numbers are the same number (zeros of either sign
apart) exactly if they are the same value of the type.
-/

namespace ModelStore

/-- `finite negative m e` is `± m · 2^e`. -/
inductive Binary64
  | nan
  | infinite (negative : Bool)
  | finite (negative : Bool) (mantissa : Nat) (exponent : Int)
  deriving DecidableEq, Repr, Inhabited

/-- `num / den` to the nearest whole number, a half to the even neighbour. -/
def roundHalfEven (num den : Nat) : Nat :=
  let q := num / den
  let r := num % den
  if 2 * r < den then q else if den < 2 * r then q + 1 else q + q % 2

/-- Rounding moves a quotient by at most one half. -/
theorem roundHalfEven_near (num : Nat) {den : Nat} (h : 0 < den) :
    2 * num ≤ (2 * roundHalfEven num den + 1) * den ∧
      2 * (roundHalfEven num den * den) ≤ 2 * num + den := by
  have hdiv := Nat.div_add_mod num den
  have hlt := Nat.mod_lt num h
  have hcomm := Nat.mul_comm den (num / den)
  have hone : (num / den + 1) * den = num / den * den + den := Nat.succ_mul ..
  have htwo : ∀ k, (2 * k + 1) * den = 2 * (k * den) + den := fun k => by
    rw [Nat.succ_mul, Nat.mul_assoc]
  rw [htwo]
  simp only [roundHalfEven]
  split
  · constructor <;> omega
  · split
    · constructor <;> omega
    · rcases Nat.mod_two_eq_zero_or_one (num / den) with he | he
      · rw [he, Nat.add_zero]; constructor <;> omega
      · rw [he]; constructor <;> omega

namespace Binary64

/-- The least exponent of a finite number. -/
def leastExponent : Int := -1074

/-- The greatest exponent of a finite number. -/
def greatestExponent : Int := 971

def zero : Binary64 := .finite false 0 leastExponent

/-- `num / den / 2^e`, as a quotient of natural numbers. -/
def scaled (num den : Nat) (e : Int) : Nat × Nat :=
  if 0 ≤ e then (num, den * Nat.pow 2 e.toNat) else (num * Nat.pow 2 (-e).toNat, den)

/-- The finite number, or the infinity that stands in when the exponent is out of range. -/
def bounded (negative : Bool) (mantissa : Nat) (e : Int) : Binary64 :=
  if greatestExponent < e then .infinite negative else .finite negative mantissa e

/-- The exponent at which `num / den` has a mantissa of 53 bits, or the least exponent if that is
greater. By the lengths of `num` and `den` the quotient lies strictly between `2^(guess + 51)` and
`2^(guess + 53)`, so one comparison decides. -/
def exponentFor (num den : Nat) : Int :=
  let guess : Int := (num.log2 : Int) - (den.log2 : Int) - 52
  let (n, d) := scaled num den guess
  max (if n < Nat.pow 2 52 * d then guess - 1 else guess) leastExponent

/-- **The rounding**: `± num / den` to the nearest representable number, ties to the even mantissa. -/
def ofRatio (negative : Bool) (num den : Nat) : Binary64 :=
  if num = 0 then .finite negative 0 leastExponent
  else
    let e := exponentFor num den
    let (n, d) := scaled num den e
    let m := roundHalfEven n d
    if m = Nat.pow 2 53 then bounded negative (Nat.pow 2 52) (e + 1) else bounded negative m e

/-- `± c · 10^e`, rounded. -/
def ofDecimal (negative : Bool) (c : Nat) (e : Int) : Binary64 :=
  if 0 ≤ e then ofRatio negative (c * Nat.pow 10 e.toNat) 1 else ofRatio negative c (Nat.pow 10 (-e).toNat)

/-- The magnitude of `m · 2^e` as a quotient. -/
def ratio (m : Nat) (e : Int) : Nat × Nat :=
  if 0 ≤ e then (m * Nat.pow 2 e.toNat, 1) else (m, Nat.pow 2 (-e).toNat)

/-- The product with a whole number, rounded. -/
def timesNat (k : Nat) : Binary64 → Binary64
  | .finite negative m e => let (n, d) := ratio m e; ofRatio negative (n * k) d
  | x => x

/-- Toward zero, to a whole number; `none` if there is none. -/
def truncate? : Binary64 → Option Int
  | .finite negative m e =>
    let (n, d) := ratio m e
    some (if negative then -((n / d : Nat) : Int) else ((n / d : Nat) : Int))
  | _ => none

/-- Zero of either sign. -/
def isZero : Binary64 → Bool
  | .finite _ m _ => m == 0
  | _ => false

/-- A finite number without a fraction. -/
def isWhole : Binary64 → Bool
  | .finite _ m e => let (n, d) := ratio m e; n % d == 0
  | _ => false

end Binary64
end ModelStore

import ModelStore.Number.Binary64

/-!
# The shortest decimal that reads back

A float is written with the fewest significant digits that read back as the same float, and of the
decimals with that many digits the nearest to it. On the grid of decimals with `n` digits only the two
neighbours of the exact value can qualify, so `shortest` tries those two for `n = 1, 2, …, 17`; seventeen
digits always suffice. Reading back is `Binary64.ofDecimal`, so that no bound of the rounding interval is
computed a second time.

How the digits are laid out (where positional notation ends, how an exponent is spelled, what stands
for the numbers that are not finite) is a `FloatLayout`, chosen by the format that writes them.
-/

namespace ModelStore

/-- The number of decimal digits; zero has none. -/
def decimalLength (n : Nat) : Nat := if n = 0 then 0 else (Nat.toDigits 10 n).length

/-- The power of ten just above a positive quotient: `10^(k-1) ≤ num / den < 10^k`. -/
def decimalPoint (num den : Nat) : Int :=
  if den ≤ num then decimalLength (num / den)
  else 1 - (decimalLength ((den - 1) / num) : Int)

/-- The decimals with `n` digits next to `num / den` from below and above, as coefficient and power
of ten, together with whether the lower is the nearer one (a tie goes to the even coefficient). -/
def decimalNeighbours (num den n : Nat) : (Nat × Nat × Int) × Bool :=
  let e : Int := decimalPoint num den - n
  let (a, b) := if 0 ≤ e then (num, den * Nat.pow 10 e.toNat) else (num * Nat.pow 10 (-e).toNat, den)
  let low := a / b
  ((low, low + 1, e), roundHalfEven a b == low)

/-- Digits without trailing zeros, and the power of ten that makes up for those taken away. -/
def trimZeros : Nat → Nat → Int → Nat × Int
  | 0, c, e => (c, e)
  | fuel + 1, c, e => if c ≠ 0 ∧ c % 10 = 0 then trimZeros fuel (c / 10) (e + 1) else (c, e)

/-- The first of the grids `n, n + 1, …` (at most `fuel` of them) on which a neighbour reads back as
`x`, and the neighbour that does, the nearer if both do. -/
def shortestFrom (x : Binary64) (negative : Bool) (num den : Nat) : Nat → Nat → Nat × Int
  | 0, n => let ((low, _, e), _) := decimalNeighbours num den n; (low, e)
  | fuel + 1, n =>
    let ((low, high, e), lowIsNearer) := decimalNeighbours num den n
    let lowReads := Binary64.ofDecimal negative low e == x
    let highReads := Binary64.ofDecimal negative high e == x
    if lowReads && (lowIsNearer || !highReads) then (low, e)
    else if highReads then (high, e)
    else shortestFrom x negative num den fuel (n + 1)

/-- The shortest decimal `c · 10^e` that reads back as `± m · 2^e`, without trailing zeros. -/
def shortest (negative : Bool) (m : Nat) (e : Int) : Nat × Int :=
  if m = 0 then (0, 0)
  else
    let (num, den) := Binary64.ratio m e
    let (c, k) := shortestFrom (.finite negative m e) negative num den 17 1
    trimZeros 20 c k

/-! ## Layout -/

/-- How a float is written: positionally if its decimal point falls within the given bounds, with an
exponent of at least two digits and a sign otherwise. -/
structure FloatLayout where
  /-- A decimal point this many places before the first digit is already written as an exponent. -/
  leastPoint : Int
  /-- The last position of the point that is written positionally. -/
  greatestPoint : Int
  nan : String
  infinity : String

/-- Digits as characters. -/
def digitChars (n : Nat) : List Char := Nat.toDigits 10 n

/-- An exponent with its sign and at least two digits. -/
def exponentChars (e : Int) : List Char :=
  let digits := digitChars e.natAbs
  (if e < 0 then '-' else '+') :: (if digits.length < 2 then '0' :: digits else digits)

/-- The digits of `c · 10^e` laid out; a whole number keeps one zero after the point. -/
def FloatLayout.finite (layout : FloatLayout) (c : Nat) (e : Int) : List Char :=
  let digits := digitChars c
  let point : Int := if c = 0 then 1 else digits.length + e
  if layout.leastPoint < point ∧ point ≤ layout.greatestPoint then
    if point ≤ 0 then ['0', '.'] ++ List.replicate (-point).toNat '0' ++ digits
    else
      let whole := digits.take point.toNat
      let fraction := digits.drop point.toNat
      whole ++ List.replicate (point.toNat - digits.length) '0' ++ ['.'] ++
        (if fraction.isEmpty then ['0'] else fraction)
  else
    let mark := 'e' :: exponentChars (point - 1)
    match digits with
    | first :: [] => first :: mark
    | first :: rest => first :: '.' :: (rest ++ mark)
    | [] => mark

/-- A float as text. -/
def FloatLayout.render (layout : FloatLayout) : Binary64 → String
  | .nan => layout.nan
  | .infinite negative => if negative then "-" ++ layout.infinity else layout.infinity
  | .finite negative m e =>
    let (c, k) := shortest negative m e
    String.ofList ((if negative then ['-'] else []) ++ layout.finite c k)

/-- The layout of floats in messages and in records: positional from `0.0001` up to sixteen digits
before the point. -/
def FloatLayout.plain : FloatLayout := ⟨-4, 16, "nan", "inf"⟩

/-- The same layout with the words that JSON readers know for what is not finite. -/
def FloatLayout.json : FloatLayout := ⟨-4, 16, "NaN", "Infinity"⟩

end ModelStore

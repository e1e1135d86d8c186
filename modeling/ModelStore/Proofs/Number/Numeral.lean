import ModelStore.Number.Decimal

/-!
# Decimals as they are written

A decimal is written with all its digits, so that the text has the coefficient and the power of ten in it and not only
the value: `1.50` is not `1.5`, and `0E+2` is not `0`. **Reading what is written gives the very decimal back**
(`read?_text`), if it is one that can be kept exactly; the text of any other is refused by its exponent alone.

What is written is plain: digits, a sign, a point, an `E`, or one of the words. So nothing of what makes reading a
numeral lenient (blank ends, underscores, digits of other scripts, letters of either case) plays a part, and reading
comes down to `signed?`. There the digits before and after the point are read as one number, and the places after the
point are taken off the exponent; the three ways in which a finite decimal is laid out differ in nothing else.

Text that is no numeral is refused for many reasons, of which only one is needed: its first character (`read?_of_opens`).
-/

namespace ModelStore

/-! ## Plain text -/

/-- What a numeral is written with: characters of ASCII that are seen, without the underscore. -/
def Text.IsPlain (c : Char) : Prop := c ≠ '_' ∧ 0x20 < c.toNat ∧ c.toNat < 0x7F

instance : DecidablePred Text.IsPlain := fun _ => inferInstanceAs (Decidable (_ ∧ _ ∧ _))

namespace Text

theorem isBlank_of_isPlain {c : Char} (h : IsPlain c) : isBlank c = false := by
  obtain ⟨-, hlow, hhigh⟩ := h
  simp only [isBlank, CharRanges.holds, blankRanges, List.any_cons, List.any_nil]
  simp only [Bool.or_false, Bool.or_eq_false_iff, Bool.and_eq_false_iff, decide_eq_false_iff_not]
  omega

theorem range_of_isDigit {c : Char} (h : c.isDigit = true) : 48 ≤ c.toNat ∧ c.toNat ≤ 57 := by
  simp only [Char.isDigit, Bool.and_eq_true, decide_eq_true_eq, ge_iff_le, UInt32.le_iff_toNat_le] at h
  exact h

theorem isPlain_of_isDigit {c : Char} (h : c.isDigit = true) : IsPlain c := by
  have hrange := range_of_isDigit h
  refine ⟨?_, by omega, by omega⟩
  rintro rfl
  cases h

/-- What has no blank at its ends is not trimmed. -/
theorem trimmed_of_isPlain {cs : List Char} (h : ∀ c ∈ cs, IsPlain c) : trimmed cs = cs := by
  have hkept {ds : List Char} (hds : ∀ c ∈ ds, IsPlain c) : ds.dropWhile isBlank = ds := by
    cases ds with
    | nil => rfl
    | cons d ds => rw [List.dropWhile_cons_of_neg (by simp [isBlank_of_isPlain (hds d List.mem_cons_self)])]
  unfold trimmed
  rw [hkept h, hkept fun c hc => h c (List.mem_reverse.mp hc), List.reverse_reverse]

/-- What begins with no blank begins so when it is trimmed. -/
theorem exists_trimmed_cons {c : Char} (h : isBlank c = false) (rest : List Char) :
    ∃ more, trimmed (c :: rest) = c :: more := by
  have hsingle : [c].dropWhile isBlank = [c] := by simp [h]
  unfold trimmed
  rw [List.dropWhile_cons_of_neg (by simp [h]), List.reverse_cons, List.dropWhile_append]
  split
  · exact ⟨[], by rw [hsingle]; rfl⟩
  · exact ⟨(rest.reverse.dropWhile isBlank).reverse, by simp⟩

end Text

namespace Decimal

theorem plainChars_of_isPlain {cs : List Char} (h : ∀ c ∈ cs, Text.IsPlain c) :
    plainChars cs = some (cs.map Char.toLower) := by
  induction cs with
  | nil => rfl
  | cons c rest ih =>
    obtain ⟨hscore, hlow, hhigh⟩ := h c List.mem_cons_self
    have hascii : 0 < c.toNat ∧ c.toNat ≤ 127 := by omega
    rw [plainChars, if_neg hscore, if_pos hascii, ih fun d hd => h d (List.mem_cons_of_mem c hd)]
    rfl

/-- Reads a numeral that is in plain form already. -/
def signed? (cs : List Char) : Option Decimal :=
  let (negative, body) := match cs with
    | '-' :: tail => (true, tail)
    | '+' :: tail => (false, tail)
    | _ => (false, cs)
  (unsigned? negative body).or (word? negative body)

theorem read?_of_isPlain {s : String} (h : ∀ c ∈ s.toList, Text.IsPlain c) :
    read? s = signed? (s.toList.map Char.toLower) := by
  unfold read?
  rw [Text.trimmed_of_isPlain h, plainChars_of_isPlain h]
  rfl

/-- The sign that is written before a negative numeral, and before no other. -/
def signChars (negative : Bool) : List Char := if negative then ['-'] else []

theorem signed?_of_unsigned {negative : Bool} {c : Char} {rest : List Char} (hminus : c ≠ '-') (hplus : c ≠ '+') :
    signed? (signChars negative ++ c :: rest) =
      (unsigned? negative (c :: rest)).or (word? negative (c :: rest)) := by
  cases negative with
  | true => rfl
  | false =>
    show signed? (c :: rest) = _
    simp [signed?, hminus, hplus]

/-! ## Digits -/

theorem natOfChars_eq (cs : List Char) : natOfChars cs = Nat.ofDigitChars 10 cs 0 := by
  rw [natOfChars, Text.natOfDigits, List.foldl_map, Nat.ofDigitChars_eq_foldl]
  rfl

theorem natOfChars_toDigits (n : Nat) : natOfChars (Nat.toDigits 10 n) = n := by
  rw [natOfChars_eq, Nat.ofDigitChars_ten_toDigits]

/-- Zeros before a number do not count. -/
theorem natOfChars_zeros (k n : Nat) : natOfChars (List.replicate k '0' ++ Nat.toDigits 10 n) = n := by
  rw [natOfChars_eq, Nat.ofDigitChars_append, Nat.ofDigitChars_replicate_zero, Nat.mul_zero,
    Nat.ofDigitChars_ten_toDigits]

theorem isDigit_of_mem_toDigits {n : Nat} {c : Char} (h : c ∈ Nat.toDigits 10 n) : c.isDigit = true :=
  Nat.isDigit_of_mem_toDigits (by decide) (by decide) h

theorem toLower_of_isDigit {c : Char} (h : c.isDigit = true) : c.toLower = c := by
  have hrange := Text.range_of_isDigit h
  unfold Char.toLower
  split
  case isTrue hcapital =>
    have hlow : 65 ≤ c.toNat := UInt32.le_iff_toNat_le.mp hcapital.1
    omega
  case isFalse => rfl

theorem map_toLower_of_isDigit {cs : List Char} (h : ∀ c ∈ cs, c.isDigit = true) : cs.map Char.toLower = cs := by
  calc cs.map Char.toLower = cs.map id := List.map_congr_left fun c hc => toLower_of_isDigit (h c hc)
    _ = cs := List.map_id cs

/-! ## Finite numerals -/

/-- The end of a numeral: after it no more digits of the number itself are read. -/
def Ends (tail : List Char) : Prop := ∀ c ∈ tail.head?, c.isDigit = false ∧ c ≠ '.'

theorem takeWhile_digits {digits tail : List Char} (h : ∀ c ∈ digits, c.isDigit = true)
    (htail : ∀ c ∈ tail.head?, c.isDigit = false) :
    (digits ++ tail).takeWhile Char.isDigit = digits ∧ (digits ++ tail).dropWhile Char.isDigit = tail := by
  have hstop : tail.takeWhile Char.isDigit = [] ∧ tail.dropWhile Char.isDigit = tail := by
    cases tail with
    | nil => exact ⟨rfl, rfl⟩
    | cons c rest =>
      have hc : c.isDigit = false := htail c rfl
      exact ⟨List.takeWhile_cons_of_neg (by simp [hc]), List.dropWhile_cons_of_neg (by simp [hc])⟩
  constructor
  · rw [List.takeWhile_append_of_pos h, hstop.1, List.append_nil]
  · rw [List.dropWhile_append_of_pos h, hstop.2]

/-- Digits after the point; without any, there may be no point. -/
inductive Fraction : List Char → List Char → Prop
  | absent : Fraction [] []
  | pointed (digits : List Char) : Fraction ('.' :: digits) digits

/-- **A finite numeral is read part by part**: the digits on both sides of the point are the coefficient, and the places
after the point lower the exponent. -/
theorem unsigned?_of_parts {negative : Bool} {whole pointed fraction tail : List Char} {e : Int}
    (hpointed : Fraction pointed fraction) (hwhole : ∀ c ∈ whole, c.isDigit = true)
    (hfraction : ∀ c ∈ fraction, c.isDigit = true) (hsome : whole ≠ []) (htail : Ends tail)
    (he : exponent? tail = some e) :
    unsigned? negative (whole ++ (pointed ++ tail)) =
      if inRange (natOfChars (whole ++ fraction)) (e - fraction.length) then
        some (.finite negative (natOfChars (whole ++ fraction)) (e - fraction.length))
      else none := by
  have hends : ∀ c ∈ tail.head?, c.isDigit = false := fun c hc => (htail c hc).1
  have hstops : ∀ c ∈ (pointed ++ tail).head?, c.isDigit = false := by
    cases hpointed with
    | absent => exact hends
    | pointed =>
      intro c hc
      obtain rfl : '.' = c := Option.some.inj hc
      decide
  obtain ⟨htake, hdrop⟩ := takeWhile_digits hwhole hstops
  have hempty : whole.isEmpty = false := List.isEmpty_eq_false_iff.mpr hsome
  unfold unsigned?
  rw [htake, hdrop]
  cases hpointed with
  | absent =>
    cases tail with
    | nil => simp [hempty, he]
    | cons c rest =>
      have hpoint : c ≠ '.' := (htail c rfl).2
      simp [hpoint, hempty, he]
  | pointed =>
    obtain ⟨htake', hdrop'⟩ := takeWhile_digits hfraction hends
    simp [htake', hdrop', hempty, he]

/-! ## What is written -/

/-- The exponent that is written after the digits. -/
def markChars (e : Int) : List Char := 'E' :: (if e < 0 then '-' else '+') :: Nat.toDigits 10 e.natAbs

theorem exponent?_mark (e : Int) : exponent? ((markChars e).map Char.toLower) = some e := by
  have hdigits : (Nat.toDigits 10 e.natAbs).map Char.toLower = Nat.toDigits 10 e.natAbs :=
    map_toLower_of_isDigit fun c hc => isDigit_of_mem_toDigits hc
  have hall : (Nat.toDigits 10 e.natAbs).all Char.isDigit = true :=
    List.all_eq_true.mpr fun c hc => isDigit_of_mem_toDigits hc
  have hsome : (Nat.toDigits 10 e.natAbs).isEmpty = false := List.isEmpty_eq_false_iff.mpr Nat.toDigits_ne_nil
  by_cases hneg : e < 0
  · have hmark : (markChars e).map Char.toLower = 'e' :: '-' :: Nat.toDigits 10 e.natAbs := by
      simp [markChars, hneg, hdigits]
    rw [hmark]
    generalize hsize : e.natAbs = n at hall hsome ⊢
    simp [exponent?, hall, hsome, natOfChars_toDigits]
    omega
  · have hmark : (markChars e).map Char.toLower = 'e' :: '+' :: Nat.toDigits 10 e.natAbs := by
      simp [markChars, hneg, hdigits]
    rw [hmark]
    generalize hsize : e.natAbs = n at hall hsome ⊢
    simp [exponent?, hall, hsome, natOfChars_toDigits]
    omega

/-- The text of `c · 10^e` in parts: digits before the point, digits after it, and an exponent if one is written. -/
inductive Layout (c : Nat) (e : Int) (chars : List Char) : Prop
  | intro (whole pointed fraction tail : List Char) (exponent : Int) (hchars : chars = whole ++ (pointed ++ tail))
      (hpointed : Fraction pointed fraction) (hsome : whole ≠ [])
      (hdigits : ∀ d ∈ whole ++ fraction, d.isDigit = true) (hvalue : natOfChars (whole ++ fraction) = c)
      (htail : tail = [] ∧ exponent = 0 ∨ tail = markChars exponent) (hplaces : e = exponent - fraction.length)

theorem layout_finiteChars (c : Nat) (e : Int) : Layout c e (finiteChars c e) := by
  have hdigits : ∀ d ∈ Nat.toDigits 10 c, d.isDigit = true := fun d hd => isDigit_of_mem_toDigits hd
  have hsome : Nat.toDigits 10 c ≠ [] := Nat.toDigits_ne_nil
  have hvalue : natOfChars (Nat.toDigits 10 c) = c := natOfChars_toDigits c
  have hlength : 0 < (Nat.toDigits 10 c).length := Nat.length_toDigits_pos
  have hzeros := fun k => natOfChars_zeros k c
  unfold finiteChars
  generalize Nat.toDigits 10 c = digits at *
  dsimp only
  split
  case isTrue hpositional =>
    obtain ⟨he, -⟩ := hpositional
    split
    case isTrue hnone =>
      refine .intro digits [] [] [] 0 (by simp) .absent hsome (by simpa using hdigits) (by simpa using hvalue)
        (.inl ⟨rfl, rfl⟩) ?_
      simp only [List.length_nil]
      omega
    case isFalse =>
      split
      case isTrue hinside =>
        refine .intro (digits.take (digits.length - (-e).toNat)) _ (digits.drop (digits.length - (-e).toNat)) [] 0
          (by simp) (.pointed _) ?_ (by simpa using hdigits) (by simpa using hvalue) (.inl ⟨rfl, rfl⟩) ?_
        · intro h
          have hzero := congrArg List.length h
          simp only [List.length_take, List.length_nil] at hzero
          omega
        · simp only [List.length_drop]
          omega
      case isFalse hbefore =>
        refine .intro ['0'] _ (List.replicate ((-e).toNat - digits.length) '0' ++ digits) [] 0 (by simp) (.pointed _)
          (by simp) ?_ (hzeros ((-e).toNat - digits.length + 1)) (.inl ⟨rfl, rfl⟩) ?_
        · intro d hd
          simp only [List.mem_append, List.mem_singleton, List.mem_replicate] at hd
          rcases hd with rfl | ⟨-, rfl⟩ | hd
          · rfl
          · rfl
          · exact hdigits d hd
        · simp only [List.length_append, List.length_replicate]
          omega
  case isFalse hscientific =>
    split
    case h_1 first second rest =>
      refine .intro [first] _ (second :: rest) (markChars (e + (first :: second :: rest).length - 1)) _
        (by simp [markChars]) (.pointed _) (by simp) (by simpa using hdigits) (by simpa using hvalue) (.inr rfl) ?_
      simp only [List.length_cons]
      omega
    case h_2 hshort =>
      refine .intro digits [] [] (markChars (e + digits.length - 1)) _ (by simp [markChars]) .absent hsome
        (by simpa using hdigits) (by simpa using hvalue) (.inr rfl) ?_
      match digits, hlength, hshort with
      | [_], _, _ => simp
      | first :: second :: rest, _, hshort => exact absurd rfl (hshort first second rest)

/-- **The text of a finite numeral is read back**, whatever its layout. -/
theorem unsigned?_finiteChars (negative : Bool) (c : Nat) (e : Int) :
    unsigned? negative ((finiteChars c e).map Char.toLower) =
      if inRange c e then some (.finite negative c e) else none := by
  obtain ⟨whole, pointed, fraction, tail, exponent, hchars, hpointed, hsome, hdigits, rfl, htail, rfl⟩ :=
    layout_finiteChars c e
  have hwhole : ∀ d ∈ whole, d.isDigit = true := fun d hd => hdigits d (List.mem_append_left _ hd)
  have hfraction : ∀ d ∈ fraction, d.isDigit = true := fun d hd => hdigits d (List.mem_append_right _ hd)
  have hplain : pointed.map Char.toLower = pointed := by
    cases hpointed with
    | absent => rfl
    | pointed => rw [List.map_cons, map_toLower_of_isDigit hfraction]; rfl
  have hread : Ends (tail.map Char.toLower) ∧ exponent? (tail.map Char.toLower) = some exponent := by
    rcases htail with ⟨rfl, rfl⟩ | rfl
    · refine ⟨?_, rfl⟩
      intro d hd
      cases hd
    · refine ⟨?_, exponent?_mark exponent⟩
      intro d hd
      obtain rfl : 'e' = d := Option.some.inj hd
      decide
  rw [hchars, List.map_append, List.map_append, map_toLower_of_isDigit hwhole, hplain]
  exact unsigned?_of_parts hpointed hwhole hfraction hsome hread.1 hread.2

/-! ## Reading back -/

/-- Whether a decimal is one that can be kept exactly. -/
def isKept : Decimal → Bool
  | .finite _ c e => inRange c e
  | _ => true

theorem isPlain_finiteChars (c : Nat) (e : Int) : ∀ d ∈ finiteChars c e, Text.IsPlain d := by
  obtain ⟨whole, pointed, fraction, tail, exponent, hchars, hpointed, -, hdigits, -, htail, -⟩ := layout_finiteChars c e
  have hplain : ∀ d ∈ whole ++ fraction, Text.IsPlain d := fun d hd => Text.isPlain_of_isDigit (hdigits d hd)
  have hpoint : Text.IsPlain '.' ∧ Text.IsPlain 'E' ∧ Text.IsPlain '-' ∧ Text.IsPlain '+' := by decide
  intro d hd
  rw [hchars, List.mem_append, List.mem_append] at hd
  rcases hd with hd | hd | hd
  · exact hplain d (List.mem_append_left _ hd)
  · cases hpointed with
    | absent => cases hd
    | pointed =>
      rcases List.mem_cons.mp hd with rfl | hd
      · exact hpoint.1
      · exact hplain d (List.mem_append_right _ hd)
  · rcases htail with ⟨rfl, -⟩ | rfl
    · cases hd
    · simp only [markChars, List.mem_cons] at hd
      rcases hd with rfl | rfl | hd
      · exact hpoint.2.1
      · split
        · exact hpoint.2.2.1
        · exact hpoint.2.2.2
      · exact Text.isPlain_of_isDigit (isDigit_of_mem_toDigits hd)

theorem exists_digit_finiteChars (c : Nat) (e : Int) :
    ∃ first rest, (finiteChars c e).map Char.toLower = first :: rest ∧ first.isDigit = true := by
  obtain ⟨whole, pointed, fraction, tail, exponent, hchars, -, hsome, hdigits, -, -, -⟩ := layout_finiteChars c e
  obtain ⟨first, more, rfl⟩ := List.exists_cons_of_ne_nil hsome
  have hfirst : first.isDigit = true := hdigits first List.mem_cons_self
  refine ⟨first, (more ++ (pointed ++ tail)).map Char.toLower, ?_, hfirst⟩
  rw [hchars, List.cons_append, List.map_cons, toLower_of_isDigit hfirst]

theorem infinity_words : "inf".toList = ['i', 'n', 'f'] ∧ "infinity".toList = ['i', 'n', 'f', 'i', 'n', 'i', 't', 'y'] :=
  ⟨by simp, by simp⟩

/-- What begins otherwise than the words do is none of them. -/
theorem word?_eq_none {c : Char} (hi : c ≠ 'i') (hs : c ≠ 's') (hn : c ≠ 'n') (negative : Bool) (rest : List Char) :
    word? negative (c :: rest) = none := by
  unfold word?
  rw [infinity_words.1, infinity_words.2]
  simp [hi, hs, hn]

theorem word?_of_isDigit {c : Char} (h : c.isDigit = true) (negative : Bool) (rest : List Char) :
    word? negative (c :: rest) = none := by
  refine word?_eq_none ?_ ?_ ?_ negative rest <;> rintro rfl <;> cases h

/-- The word for "not a number", in small letters. -/
def nanChars (signaling : Bool) : List Char := (if signaling then ['s'] else []) ++ ['n', 'a', 'n']

theorem signed?_nan (negative signaling : Bool) {payload : List Char} (h : ∀ c ∈ payload, c.isDigit = true) :
    signed? (signChars negative ++ (nanChars signaling ++ payload)) =
      some (.nan negative signaling (natOfChars payload)) := by
  have hall : payload.all Char.isDigit = true := List.all_eq_true.mpr h
  cases signaling with
  | true =>
    rw [show nanChars true ++ payload = 's' :: 'n' :: 'a' :: 'n' :: payload from rfl,
      signed?_of_unsigned (by decide) (by decide)]
    unfold word?
    rw [infinity_words.1, infinity_words.2]
    simp [unsigned?, hall]
  | false =>
    rw [show nanChars false ++ payload = 'n' :: 'a' :: 'n' :: payload from rfl,
      signed?_of_unsigned (by decide) (by decide)]
    unfold word?
    rw [infinity_words.1, infinity_words.2]
    simp [unsigned?, hall]

theorem isPlain_signChars (negative : Bool) : ∀ c ∈ signChars negative, Text.IsPlain c := by
  cases negative with
  | false => exact List.forall_mem_nil _
  | true => exact List.forall_mem_singleton.mpr (by decide)

theorem map_toLower_signChars (negative : Bool) : (signChars negative).map Char.toLower = signChars negative := by
  cases negative <;> rfl

theorem read?_finite (negative : Bool) (c : Nat) (e : Int) :
    read? (finite negative c e).text = if inRange c e then some (.finite negative c e) else none := by
  have htext : (finite negative c e).text.toList = signChars negative ++ finiteChars c e := by
    simp [text, signChars]
  have hplain : ∀ d ∈ (finite negative c e).text.toList, Text.IsPlain d := by
    intro d hd
    rw [htext, List.mem_append] at hd
    exact hd.elim (isPlain_signChars negative d) (isPlain_finiteChars c e d)
  obtain ⟨first, rest, hchars, hfirst⟩ := exists_digit_finiteChars c e
  have hnosign : first ≠ '-' ∧ first ≠ '+' := by
    constructor <;> rintro rfl <;> cases hfirst
  rw [read?_of_isPlain hplain, htext, List.map_append, map_toLower_signChars, hchars,
    signed?_of_unsigned hnosign.1 hnosign.2, ← hchars, unsigned?_finiteChars, hchars, word?_of_isDigit hfirst,
    Option.or_none]

theorem read?_nan (negative signaling : Bool) (payload : Nat) :
    read? (nan negative signaling payload).text = some (.nan negative signaling payload) := by
  obtain ⟨digits, hdigits, hvalue, htext⟩ : ∃ digits : List Char, (∀ c ∈ digits, c.isDigit = true) ∧
      natOfChars digits = payload ∧ (nan negative signaling payload).text.toList =
        signChars negative ++ ((if signaling then ['s'] else []) ++ ['N', 'a', 'N'] ++ digits) := by
    -- a number that is zero is not written
    by_cases hzero : payload = 0
    · refine ⟨[], by simp, hzero.symm, ?_⟩
      cases negative <;> cases signaling <;> simp [text, signChars, hzero]
    · refine ⟨Nat.toDigits 10 payload, fun c hc => isDigit_of_mem_toDigits hc, natOfChars_toDigits payload, ?_⟩
      cases negative <;> cases signaling <;> simp [text, signChars, hzero]
  have hword : (∀ c ∈ (if signaling then ['s'] else []) ++ ['N', 'a', 'N'], Text.IsPlain c) ∧
      ((if signaling then ['s'] else []) ++ ['N', 'a', 'N']).map Char.toLower = nanChars signaling := by
    refine ⟨?_, by cases signaling <;> rfl⟩
    have hletters : Text.IsPlain 's' ∧ Text.IsPlain 'N' ∧ Text.IsPlain 'a' := by decide
    cases signaling <;> simp [hletters]
  have hplain : ∀ c ∈ (nan negative signaling payload).text.toList, Text.IsPlain c := by
    intro c hc
    rw [htext, List.mem_append, List.mem_append] at hc
    rcases hc with hc | hc | hc
    · exact isPlain_signChars negative c hc
    · exact hword.1 c hc
    · exact Text.isPlain_of_isDigit (hdigits c hc)
  rw [read?_of_isPlain hplain, htext, List.map_append, List.map_append, map_toLower_signChars, hword.2,
    map_toLower_of_isDigit hdigits, signed?_nan negative signaling hdigits, hvalue]

/-- **What is written is read back as the very decimal**, with the digits that it was written with. -/
theorem read?_text (d : Decimal) : read? d.text = if d.isKept then some d else none := by
  cases d with
  | finite negative c e => exact read?_finite negative c e
  | infinite negative => cases negative <;> decide
  | nan negative signaling payload => exact read?_nan negative signaling payload

/-! ## What is no numeral -/

/-- What a numeral in plain form may begin with. -/
def opens (c : Char) : Bool := c.isDigit || "+-.ins".toList.contains c

theorem signed?_of_opens {c : Char} (h : opens c = false) (rest : List Char) : signed? (c :: rest) = none := by
  obtain ⟨hdigit, hplus, hminus, hpoint, hi, hn, hs⟩ : c.isDigit = false ∧ c ≠ '+' ∧ c ≠ '-' ∧ c ≠ '.' ∧ c ≠ 'i' ∧
      c ≠ 'n' ∧ c ≠ 's' := by
    simpa [opens] using h
  have hunsigned : unsigned? false (c :: rest) = none := by
    simp [unsigned?, hdigit, hpoint]
  show signed? (signChars false ++ c :: rest) = none
  rw [signed?_of_unsigned hminus hplus, hunsigned, word?_eq_none hi hs hn]
  rfl

/-- **A text that begins otherwise is no numeral**, however it goes on. -/
theorem read?_of_opens {s : String} {c : Char} {rest : List Char} (hs : s.toList = c :: rest) (hplain : Text.IsPlain c)
    (hopens : opens c.toLower = false) : read? s = none := by
  obtain ⟨more, htrimmed⟩ := Text.exists_trimmed_cons (Text.isBlank_of_isPlain hplain) rest
  obtain ⟨hscore, hlow, hhigh⟩ := hplain
  have hascii : 0 < c.toNat ∧ c.toNat ≤ 127 := by omega
  unfold read?
  rw [hs, htrimmed, plainChars, if_neg hscore, if_pos hascii]
  cases plainChars more with
  | none => rfl
  | some cs => exact signed?_of_opens hopens cs

end Decimal
end ModelStore

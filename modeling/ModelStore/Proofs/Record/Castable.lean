import ModelStore.Proofs.Number.Numeral
import ModelStore.Proofs.Record.Casting

/-!
# Which rows are cast

A row comes from storage when the statement has taken effect, so a row that cannot be cast is a result lost. Whether a
row is cast depends on its times alone, and of a time on the number that it denotes (`Value.numeral?`): **a row is cast
exactly if there is none of its times that nothing can be made of** (`castRow_returns_iff`). Nothing is made of the
infinities, of the signaling not-a-number, and of numbers with more digits than there is memory for (`Decimal.Stops`).

What denotes no number at all stays as it is, whether it is text, a sequence, a mapping or bytes: none of these begins
as a numeral does. It has to be written out to be seen as none, though, and a sequence or a mapping cannot be written if
a whole number in it has too many digits; so nothing is made of that either (`Value.Stops`). The quiet not-a-number, on
the other hand, is a numeral, and becomes the float of that name.

Where memory ends is not up to the program. The power of ten from which on numbers are too long is a parameter of what
stops, and the results name the one that casting goes by, `Decimal.powerBound`.
-/

namespace ModelStore

open Sorting (exists_of_bind_eq_ok)

/-! ## Numbers -/

/-- Decimals that nothing is made of, if there is no memory for the digits of a power of ten from `capacity` on. -/
inductive Decimal.Stops (capacity : Int) : Decimal → Prop
  | infinite (negative : Bool) : Stops capacity (.infinite negative)
  | signaling (negative : Bool) (payload : Nat) : Stops capacity (.nan negative true payload)
  | large (negative : Bool) {c : Nat} {e : Int} (hc : c ≠ 0) (he : capacity ≤ e) : Stops capacity (.finite negative c e)

theorem Decimal.exists_toNumber_iff (d : Decimal) : (∃ w, d.toNumber = .ok w) ↔ ¬ d.Stops powerBound := by
  cases d with
  | infinite negative => exact iff_of_false (fun ⟨w, h⟩ => by cases h) (not_not_intro (.infinite negative))
  | nan negative signaling payload =>
    cases signaling with
    | true => exact iff_of_false (fun ⟨w, h⟩ => by cases h) (not_not_intro (.signaling negative payload))
    | false => exact iff_of_true ⟨_, rfl⟩ (fun h => by cases h)
  | finite negative c e =>
    by_cases hlarge : c ≠ 0 ∧ powerBound ≤ e
    · have hstops : (finite negative c e).toNumber = .error (.misused .capacity) := if_pos hlarge
      rw [hstops]
      exact iff_of_false (fun ⟨w, h⟩ => by cases h) (not_not_intro (.large negative hlarge.1 hlarge.2))
    · refine iff_of_true ?_ ?_
      · simp only [toNumber, if_neg hlarge]
        split
        · exact ⟨_, rfl⟩
        · exact ⟨_, rfl⟩
      · intro hstops
        cases hstops with
        | large _ hc he => exact hlarge ⟨hc, he⟩

namespace Value

variable {v w : Value}

/-- The number that a value denotes which is no number itself: text that is a numeral, and a decimal. -/
def numeral? : Value → Option Decimal
  | text s => Decimal.read? s
  | decimal d => if d.isKept then some d else none
  | _ => none

/-- **Text and decimals are read as what they denote.** -/
theorem read?_plain (hwritten : v.isWritten = true) : Decimal.read? v.plain = v.numeral? := by
  cases v with
  | text s => rfl
  | decimal d => exact Decimal.read?_text d
  | _ => cases hwritten

theorem isWritten_of_numeral? {d : Decimal} (hd : v.numeral? = some d) : v.isWritten = true := by
  cases v with
  | text s => rfl
  | decimal d => rfl
  | _ => cases hd

/-- What is neither a number nor written as one: it is shown with a mark of its kind in front. -/
def isMarked : Value → Bool
  | bytes _ => true
  | list _ => true
  | tuple _ => true
  | map _ => true
  | pending => true
  | _ => false

theorem isMarked_of_written (hwritten : v.isWritten = true) : v.isMarked = false := by
  cases v with
  | text s => rfl
  | decimal d => rfl
  | _ => cases hwritten

/-- The marks. No numeral begins with one. -/
def marks : List Char := ['b', '[', '(', '\x7b', 'P']

theorem exists_mark (hmarked : v.isMarked = true) : ∃ c ∈ marks, ∃ rest, v.plain.toList = c :: rest := by
  cases v with
  | bytes bs => exact ⟨'b', by simp [marks], by simp [plain, literal, Text.quotedBytes]⟩
  | list vs => exact ⟨'[', by simp [marks], by simp [plain, literal]⟩
  | tuple vs =>
    refine ⟨'(', by simp [marks], ?_⟩
    match vs with
    | [] => simp [plain, literal]
    | [_] => simp [plain, literal]
    | _ :: _ :: _ => simp [plain, literal]
  | map es => exact ⟨'\x7b', by simp [marks], by simp [plain, literal]⟩
  | pending => exact ⟨'P', by simp [marks], by simp [plain, literal]⟩
  | _ => cases hmarked

theorem read?_of_isMarked (hmarked : v.isMarked = true) : Decimal.read? v.plain = none := by
  have hmarks : ∀ c ∈ marks, Text.IsPlain c ∧ Decimal.opens c.toLower = false := by
    intro c hc
    have hall : (marks.all fun c => decide (Text.IsPlain c ∧ Decimal.opens c.toLower = false)) = true := by decide
    exact of_decide_eq_true (List.all_eq_true.mp hall c hc)
  obtain ⟨c, hc, rest, hplain⟩ := exists_mark hmarked
  exact Decimal.read?_of_opens hplain (hmarks c hc).1 (hmarks c hc).2

/-- Sequences, mappings and bytes stay, if they can be written out. -/
theorem toNumber_of_isMarked (hmarked : v.isMarked = true) :
    v.toNumber = if v.overlong then .error (.misused .content) else .ok v := by
  have hread := read?_of_isMarked hmarked
  cases v with
  | bytes bs => simp only [toNumber, hread]
  | list vs => simp only [toNumber, hread]
  | tuple vs => simp only [toNumber, hread]
  | map es => simp only [toNumber, hread]
  | pending => simp only [toNumber, hread]
  | _ => cases hmarked

/-- A value of which nothing is made: a number that nothing is made of is what it denotes, or it is no number and cannot
be written out. -/
inductive Stops (capacity : Int) (v : Value) : Prop
  | numeral {d : Decimal} (hd : v.numeral? = some d) (hstops : d.Stops capacity)
  | overlong (hmarked : v.isMarked = true) (hlong : v.overlong = true)

theorem stops_iff_of_written {capacity : Int} (hwritten : v.isWritten = true) :
    v.Stops capacity ↔ ∃ d, v.numeral? = some d ∧ d.Stops capacity := by
  constructor
  · rintro (⟨hd, hstops⟩ | ⟨hmarked, -⟩)
    · exact ⟨_, hd, hstops⟩
    · cases (isMarked_of_written hwritten).symm.trans hmarked
  · rintro ⟨d, hd, hstops⟩
    exact .numeral hd hstops

theorem stops_iff_of_isMarked {capacity : Int} (hmarked : v.isMarked = true) :
    v.Stops capacity ↔ v.overlong = true := by
  constructor
  · rintro (⟨hd, -⟩ | ⟨-, hlong⟩)
    · cases (isMarked_of_written (isWritten_of_numeral? hd)).symm.trans hmarked
    · exact hlong
  · exact .overlong hmarked

theorem exists_toNumber_iff (hholds : v.holds = true) :
    (∃ w, v.toNumber = .ok w) ↔ ¬ v.Stops Decimal.powerBound := by
  cases hwritten : v.isWritten with
  | true =>
    rw [toNumber_of_written hwritten, read?_plain hwritten, stops_iff_of_written hwritten]
    cases v.numeral? with
    | none => simp
    | some d => simpa using d.exists_toNumber_iff
  | false =>
    cases hmarked : v.isMarked with
    | true =>
      rw [toNumber_of_isMarked hmarked, stops_iff_of_isMarked hmarked]
      cases v.overlong <;> simp
    | false =>
      -- What is left are the numbers and the moments.
      refine iff_of_true ?_ ?_
      · cases v with
        | null => cases hholds
        | bool b => exact ⟨_, rfl⟩
        | int n => exact ⟨_, rfl⟩
        | float x => exact ⟨_, rfl⟩
        | moment t => exact ⟨_, rfl⟩
        | text s => cases hwritten
        | decimal d => cases hwritten
        | _ => cases hmarked
      · rintro (⟨hd, -⟩ | ⟨hmarked', -⟩)
        · cases hwritten.symm.trans (isWritten_of_numeral? hd)
        · cases hmarked.symm.trans hmarked'

/-- Empty text denotes no number, and a decimal that does not hold is zero. -/
theorem holds_of_numeral? {d : Decimal} (hd : v.numeral? = some d) (hzero : d.isZero = false) : v.holds = true := by
  cases v with
  | text s =>
    have hsome : s ≠ "" := by
      rintro rfl
      have hempty : Decimal.read? "" = none := by decide
      cases hempty.symm.trans hd
    simpa [Value.holds] using hsome
  | decimal d' =>
    obtain rfl : d' = d := by
      by_cases hkept : d'.isKept = true <;> simp [numeral?, hkept] at hd
      exact hd
    simp [Value.holds, hzero]
  | _ => cases hd

/-- What cannot be written out is not empty. -/
theorem holds_of_overlong (hmarked : v.isMarked = true) (hlong : v.overlong = true) : v.holds = true := by
  cases v with
  | list items =>
    cases items with
    | nil => cases hlong
    | cons item rest => rfl
  | tuple items =>
    cases items with
    | nil => cases hlong
    | cons item rest => rfl
  | map entries =>
    cases entries with
    | nil => cases hlong
    | cons entry rest => rfl
  | int n => cases hmarked
  | _ => cases hlong

theorem Stops.holds {capacity : Int} (h : v.Stops capacity) : v.holds = true := by
  cases h with
  | numeral hd hstops =>
    apply holds_of_numeral? hd
    cases hstops with
    | infinite negative => rfl
    | signaling negative payload => rfl
    | large negative hc he => simpa [Decimal.isZero] using hc
  | overlong hmarked hlong => exact holds_of_overlong hmarked hlong

end Value

/-! ## Rows -/

namespace Record

variable {record record' : Record} {column : String} {columns : List String} {v : Value}

theorem exists_castTime_iff :
    (∃ record', record.castTime column = .ok record') ↔
      ∀ v, record.get? (.text column) = some v → ¬ v.Stops Decimal.powerBound := by
  unfold castTime
  split
  case h_1 v hget =>
    have honly : (∀ v', record.get? (.text column) = some v' → ¬ v'.Stops Decimal.powerBound) ↔
        ¬ v.Stops Decimal.powerBound := by simp [hget]
    rw [honly]
    split
    case isTrue hholds =>
      rw [← Value.exists_toNumber_iff hholds]
      cases v.toNumber with
      | error fault => exact iff_of_false (fun ⟨_, h⟩ => by cases h) (fun ⟨_, h⟩ => by cases h)
      | ok w => exact iff_of_true ⟨_, rfl⟩ ⟨_, rfl⟩
    case isFalse hnothing => exact iff_of_true ⟨_, rfl⟩ fun hstops => hnothing hstops.holds
  case h_2 hnone => exact iff_of_true ⟨_, rfl⟩ (by simp [hnone])

/-- **The times are cast exactly if none of them stops.** Casting one does not touch another. -/
theorem exists_castTimes_iff (hnodup : columns.Nodup) :
    (∃ record', columns.foldlM castTime record = .ok record') ↔
      ∀ column ∈ columns, ∀ v, record.get? (.text column) = some v → ¬ v.Stops Decimal.powerBound := by
  induction columns generalizing record with
  | nil => exact iff_of_true ⟨record, rfl⟩ (by simp)
  | cons column rest ih =>
    obtain ⟨hother, hrest⟩ := List.nodup_cons.mp hnodup
    rw [List.foldlM_cons]
    constructor
    · rintro ⟨record', h⟩
      obtain ⟨middle, hstep, hsteps⟩ := exists_of_bind_eq_ok h
      have hlater := (ih hrest).mp ⟨record', hsteps⟩
      intro other hmem v hget
      rcases List.mem_cons.mp hmem with rfl | hmem
      · exact exists_castTime_iff.mp ⟨middle, hstep⟩ v hget
      · have hne : other ≠ column := fun heq => hother (heq ▸ hmem)
        exact hlater other hmem v ((get?_castTime hstep hne).trans hget)
    · intro hall
      obtain ⟨middle, hstep⟩ := exists_castTime_iff.mpr (hall column List.mem_cons_self)
      obtain ⟨record', hsteps⟩ : ∃ record', rest.foldlM castTime middle = .ok record' := by
        apply (ih hrest).mpr
        intro other hmem v hget
        have hne : other ≠ column := fun heq => hother (heq ▸ hmem)
        exact hall other (List.mem_cons_of_mem _ hmem) v ((get?_castTime hstep hne).symm.trans hget)
      exact ⟨record', by rw [hstep]; exact hsteps⟩

/-- What does not hold is not taken for a time. -/
theorem get?_castTimes_of_not_holds (h : columns.foldlM castTime record = .ok record')
    (hget : record.get? (.text column) = some v) (hholds : v.holds = false) :
    record'.get? (.text column) = some v := by
  refine castTimes_keep (P := fun r => r.get? (.text column) = some v) h hget ?_
  intro other _ first second hstep hkept
  rcases castTime_cases hstep with rfl | ⟨v', w, hget', hholds', -, rfl⟩
  · exact hkept
  · have hne : column ≠ other := by
      rintro rfl
      obtain rfl := Option.some.inj (hkept.symm.trans hget')
      cases hholds.symm.trans hholds'
    rw [get?_put_of_ne first hne w]
    exact hkept

end Record

namespace Model

variable {model : Model} {row record : Record} {column : String} {v : Value}

theorem castRow_map_iff : model.castRow (.map row) = .ok (some record) ↔ model.castRecord row = .ok record := by
  rw [castRow_map]
  cases model.castRecord row <;> simp [Except.map]

theorem exists_castRecord_iff : (∃ record, model.castRecord row = .ok record) ↔
    ∀ column ∈ timeColumns, ∀ v, row.get? (.text column) = some v → ¬ v.Stops Decimal.powerBound := by
  rw [← Record.exists_castTimes_iff (by decide)]
  constructor
  · rintro ⟨record, h⟩
    obtain ⟨timed, htimed, -⟩ := castRecord_ok h
    exact ⟨timed, htimed⟩
  · rintro ⟨timed, htimed⟩
    exact ⟨timed.map model.zeroFill, by rw [castRecord, htimed]; rfl⟩

/-- A time that denotes no number is left as it is. -/
theorem get?_castRecord_of_numeral?_none (h : model.castRecord row = .ok record) (hmem : column ∈ timeColumns)
    (hget : row.get? (.text column) = some v) (hwritten : v.isWritten = true) (hnone : v.numeral? = none) :
    record.get? (.text column) = some v := by
  cases hholds : v.holds with
  | true =>
    obtain ⟨w, hw, htime⟩ := get?_castRecord_of_holds h hmem hget hholds
    rw [Value.toNumber_of_written hwritten, Value.read?_plain hwritten, hnone] at hw
    obtain rfl := Except.ok.inj hw
    exact htime
  | false =>
    have hnull : v.isNull = false := by
      cases v with
      | null => cases hwritten
      | _ => rfl
    obtain ⟨timed, htimed, rfl⟩ := castRecord_ok h
    rw [get?_map_zeroFill, Record.get?_castTimes_of_not_holds htimed hget hholds, Option.map_some,
      zeroFill_of_not_null model hnull]

/-- A time that denotes a number, but no finite one, can only be the quiet not-a-number. -/
theorem get?_castRecord_of_not_finite (h : model.castRecord row = .ok record) (hmem : column ∈ timeColumns)
    (hget : row.get? (.text column) = some v) (hwritten : v.isWritten = true) {d : Decimal} (hd : v.numeral? = some d)
    (hfinite : ∀ negative c e, d ≠ .finite negative c e) :
    record.get? (.text column) = some (.float .nan) := by
  have hholds : v.holds = true := by
    apply Value.holds_of_numeral? hd
    cases d with
    | finite negative c e => exact absurd rfl (hfinite negative c e)
    | _ => rfl
  obtain ⟨w, hw, htime⟩ := get?_castRecord_of_holds h hmem hget hholds
  rw [Value.toNumber_of_written hwritten, Value.read?_plain hwritten, hd] at hw
  have hnan : w = .float .nan := by
    cases d with
    | finite negative c e => exact absurd rfl (hfinite negative c e)
    | infinite negative => cases hw
    | nan negative signaling payload =>
      cases signaling with
      | true => cases hw
      | false => exact (Except.ok.inj hw).symm
  rw [htime, hnan]

/-- **A row is cast exactly if there is none of its times that nothing can be made of**, where a power of ten counts as
too long to be written out from `Decimal.powerBound` on. A time that denotes no finite number is then left as it is, if
it denotes no number at all; but the quiet not-a-number becomes a float. -/
theorem castRow_returns_iff (model : Model) (row : Record) :
    ((∃ record, model.castRow (.map row) = .ok (some record)) ↔
      ∀ column ∈ timeColumns, ∀ v, row.get? (.text column) = some v → ¬ v.Stops Decimal.powerBound) ∧
    ∀ record, model.castRow (.map row) = .ok (some record) →
      ∀ column ∈ timeColumns, ∀ v, row.get? (.text column) = some v → v.isWritten = true →
        (∀ negative c e, v.numeral? ≠ some (.finite negative c e)) →
        (v.numeral? = none → record.get? (.text column) = some v) ∧
        (v.numeral? ≠ none → record.get? (.text column) = some (.float .nan)) := by
  simp only [castRow_map_iff]
  refine ⟨exists_castRecord_iff, ?_⟩
  intro record h column hmem v hget hwritten hfinite
  constructor
  · exact get?_castRecord_of_numeral?_none h hmem hget hwritten
  · intro hsome
    obtain ⟨d, hd⟩ := Option.ne_none_iff_exists'.mp hsome
    refine get?_castRecord_of_not_finite h hmem hget hwritten hd ?_
    rintro negative c e rfl
    exact hfinite negative c e hd

/-- Times that denote no finite number: the one is a numeral, the other is none. -/
def undated : Record := [(.text "created_at", .text " -NaN "), (.text "updated_at", .text "soon")]

theorem castRow_returns_of_undated :
    ∃ record, orders.castRow (.map undated) = .ok (some record) ∧
      record.get? (.text "created_at") = some (.float .nan) ∧
      record.get? (.text "updated_at") = some (.text "soon") := by
  have hnan : (Value.text " -NaN ").numeral? = some (.nan true false 0) := by decide
  have hsoon : (Value.text "soon").numeral? = none := by decide
  have hgoes : ∀ column ∈ timeColumns, ∀ v, undated.get? (.text column) = some v → ¬ v.Stops Decimal.powerBound := by
    intro column hmem v hget
    simp only [timeColumns, List.mem_cons, List.not_mem_nil, or_false] at hmem
    rcases hmem with rfl | rfl
    · obtain rfl := Option.some.inj ((show undated.get? (.text "created_at") = _ from rfl).symm.trans hget)
      rw [Value.stops_iff_of_written rfl]
      rintro ⟨d, hd, hstops⟩
      obtain rfl := Option.some.inj (hnan.symm.trans hd)
      cases hstops
    · obtain rfl := Option.some.inj ((show undated.get? (.text "updated_at") = _ from rfl).symm.trans hget)
      rw [Value.stops_iff_of_written rfl]
      rintro ⟨d, hd, -⟩
      cases hsoon.symm.trans hd
  obtain ⟨hreturns, htimes⟩ := castRow_returns_iff orders undated
  obtain ⟨record, hrecord⟩ := hreturns.mpr hgoes
  refine ⟨record, hrecord, ?_, ?_⟩
  · refine (htimes record hrecord "created_at" (by decide) (.text " -NaN ") rfl rfl ?_).2 (by simp [hnan])
    simp [hnan]
  · refine (htimes record hrecord "updated_at" (by decide) (.text "soon") rfl rfl ?_).1 hsoon
    simp [hsoon]

/-- An infinite time costs the whole row. -/
theorem infinity_is_not_cast :
    orders.castRow (.map [(.text "created_at", .text "Infinity")]) = .error (.misused .overflow) := by
  have hread : Decimal.read? (Value.text "Infinity").plain = some (.infinite false) := by decide
  have hnumber : (Value.text "Infinity").toNumber = .error (.misused .overflow) := by
    rw [Value.toNumber_of_written rfl, hread]
    rfl
  have htime : Record.castTime [(.text "created_at", .text "Infinity")] "created_at" =
      .error (.misused .overflow) := by
    unfold Record.castTime
    show (do .ok (Record.put _ _ (← (Value.text "Infinity").toNumber)) : Except Fault Record) = _
    rw [hnumber]
    rfl
  rw [castRow_map, castRecord, timeColumns, List.foldlM_cons, htime]
  rfl

end Model
end ModelStore

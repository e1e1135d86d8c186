import ModelStore.Proofs.Number.Whole
import ModelStore.Proofs.Record.Columns
import ModelStore.Proofs.Write.Filling
import ModelStore.Sorting.Merge

/-!
# What casting a row makes of it

A row is cast in two passes: its times become numbers, and then nulls that are not allowed become zeros. Each entry
stays in its place and under its key (`keys_castRecord`), so what becomes of a row is what becomes of its entries:

* an entry that is neither a null nor one of the times stays (`getElem?_castRecord_of_not_null`);
* a null becomes the zero of its attribute, if it has one (`getElem?_castRecord_of_null`);
* a time that is written as a numeral becomes the number, **the very one if it is whole**, whatever it is written like
  (`get?_castRecord_of_whole`).

**A record that is cast again is the same** (`castRecord_castRecord`). A number that a time became is not changed by
making a number of it, and what takes the place of a null holds nothing, so it is not taken for a time.
-/

namespace ModelStore

open Sorting (exists_of_bind_eq_ok)

/-! ## Numbers -/

theorem Decimal.toNumber_cases {d : Decimal} {w : Value} (h : d.toNumber = .ok w) :
    (∃ n, w = .int n) ∨ ∃ x, w = .float x := by
  unfold toNumber at h
  split at h
  case h_1 => cases h
  case h_2 => cases h
  case h_3 =>
    obtain rfl := Except.ok.inj h
    exact .inr ⟨_, rfl⟩
  case h_4 =>
    split at h
    case isTrue => cases h
    case isFalse =>
      split at h
      · obtain rfl := Except.ok.inj h
        exact .inl ⟨_, rfl⟩
      · obtain rfl := Except.ok.inj h
        exact .inr ⟨_, rfl⟩

namespace Value

variable {v w : Value}

/-- What a value becomes as a number is a number already, or the value. -/
theorem toNumber_cases (h : v.toNumber = .ok w) : (∃ n, w = .int n) ∨ (∃ x, w = .float x) ∨ w = v := by
  unfold toNumber at h
  split at h
  case h_1 =>
    obtain rfl := Except.ok.inj h
    exact .inl ⟨_, rfl⟩
  case h_2 =>
    obtain rfl := Except.ok.inj h
    exact .inl ⟨_, rfl⟩
  case h_3 =>
    obtain rfl := Except.ok.inj h
    exact .inr (.inl ⟨_, rfl⟩)
  case h_4 =>
    obtain rfl := Except.ok.inj h
    exact .inl ⟨_, rfl⟩
  case h_5 =>
    split at h
    case isTrue => cases h
    case isFalse =>
      split at h
      · exact (Decimal.toNumber_cases h).imp_right .inl
      · exact .inr (.inr (Except.ok.inj h).symm)

/-- **A number stays one**: nothing more is made of it. -/
theorem toNumber_toNumber (h : v.toNumber = .ok w) : w.toNumber = .ok w := by
  rcases toNumber_cases h with ⟨n, rfl⟩ | ⟨x, rfl⟩ | rfl
  · rfl
  · rfl
  · exact h

theorem isNull_toNumber (h : v.toNumber = .ok w) (hv : v.isNull = false) : w.isNull = false := by
  rcases toNumber_cases h with ⟨n, rfl⟩ | ⟨x, rfl⟩ | rfl
  · rfl
  · rfl
  · exact hv

theorem not_null_of_holds (h : v.holds = true) : v.isNull = false := by
  cases v with
  | null => cases h
  | _ => rfl

/-- What is written out to be read as a numeral. -/
def isWritten : Value → Bool
  | text _ => true
  | decimal _ => true
  | _ => false

theorem toNumber_of_written (hwritten : v.isWritten = true) :
    v.toNumber = match Decimal.read? v.plain with
      | some d => d.toNumber
      | none => .ok v := by
  cases v with
  | text s => rfl
  | decimal d => rfl
  | _ => cases hwritten

/-- **A numeral of a whole value becomes that number.** -/
theorem toNumber_of_whole {negative : Bool} {c : Nat} {e n : Int} (hwritten : v.isWritten = true)
    (hread : Decimal.read? v.plain = some (.finite negative c e)) (hvalue : Decimal.value negative c e = n)
    (h : v.toNumber = .ok w) : w = .int n := by
  rw [toNumber_of_written hwritten, hread] at h
  dsimp only [Decimal.toNumber] at h
  split at h
  case isTrue => cases h
  case isFalse =>
    rw [Decimal.toInt?_eq_some_iff.mpr hvalue] at h
    exact (Except.ok.inj h).symm

end Value

/-! ## Times -/

namespace Record

variable {record record' : Record} {column : String} {columns : List String} {v : Value}

theorem keys_castTime (h : record.castTime column = .ok record') : record'.map (·.1) = record.map (·.1) := by
  rcases castTime_cases h with rfl | ⟨v, w, hget, -, -, rfl⟩
  · rfl
  · have hhas : record.has (.text column) = true := by
      rw [← isSome_get?, hget]
      rfl
    rw [keys_put, if_pos hhas]

theorem keys_castTimes (h : columns.foldlM castTime record = .ok record') :
    record'.map (·.1) = record.map (·.1) := by
  refine castTimes_keep (P := fun r => r.map (·.1) = record.map (·.1)) h rfl ?_
  intro column _ first second hstep hkept
  exact (keys_castTime hstep).trans hkept

/-- What is in another column, or does not hold, stays. -/
theorem getElem?_castTime (h : record.castTime column = .ok record') {i : Nat} {entry : Value × Value}
    (hentry : record[i]? = some entry) (hother : entry.1 ≠ .text column ∨ entry.2.holds = false) :
    record'[i]? = some entry := by
  rcases castTime_cases h with rfl | ⟨v, w, hget, hholds, -, rfl⟩
  · exact hentry
  · rcases getElem?_put hentry w with hsame | ⟨hkey, hfirst, -⟩
    · exact hsame
    · rcases hother with hne | hnothing
      · exact absurd hkey hne
      · obtain rfl := Option.some.inj (hget.symm.trans hfirst)
        cases hholds.symm.trans hnothing

theorem getElem?_castTimes (h : columns.foldlM castTime record = .ok record') {i : Nat} {entry : Value × Value}
    (hentry : record[i]? = some entry)
    (hother : (∀ column ∈ columns, entry.1 ≠ .text column) ∨ entry.2.holds = false) : record'[i]? = some entry := by
  refine castTimes_keep (P := fun r => r[i]? = some entry) h hentry ?_
  intro column hmem first second hstep hkept
  apply getElem?_castTime hstep hkept
  exact hother.imp_left fun hne => hne column hmem

theorem get?_castTime_self (h : record.castTime column = .ok record') (hget : record.get? (.text column) = some v)
    (hholds : v.holds = true) : ∃ w, v.toNumber = .ok w ∧ record'.get? (.text column) = some w := by
  unfold castTime at h
  simp only [hget, hholds, if_true] at h
  obtain ⟨w, hw, h⟩ := exists_of_bind_eq_ok h
  obtain rfl := Except.ok.inj h
  exact ⟨w, hw, get?_put_self record (Value.equal_text_iff.mpr rfl) w⟩

/-- A time that holds is a number then, of itself and no other. -/
theorem get?_castTimes_self (hnodup : columns.Nodup) (hmem : column ∈ columns)
    (h : columns.foldlM castTime record = .ok record') (hget : record.get? (.text column) = some v)
    (hholds : v.holds = true) : ∃ w, v.toNumber = .ok w ∧ record'.get? (.text column) = some w := by
  induction columns generalizing record with
  | nil => cases hmem
  | cons first rest ih =>
    obtain ⟨hfirst, hrest⟩ := List.nodup_cons.mp hnodup
    rw [List.foldlM_cons] at h
    obtain ⟨middle, hstep, hsteps⟩ := exists_of_bind_eq_ok h
    by_cases heq : column = first
    · subst heq
      obtain ⟨w, hw, hmiddle⟩ := get?_castTime_self hstep hget hholds
      exact ⟨w, hw, (get?_castTimes hsteps hfirst).trans hmiddle⟩
    · have hlater : column ∈ rest := (List.mem_cons.mp hmem).resolve_left heq
      exact ih hrest hlater hsteps ((get?_castTime hstep heq).trans hget)

/-! ## Times that are numbers -/

/-- There is nothing to make a number of in a column. -/
def TimeSettled (record : Record) (column : String) : Prop :=
  ∀ v, record.get? (.text column) = some v → v.holds = true → v.toNumber = .ok v

theorem TimeSettled.castTime (h : record.TimeSettled column) : record.castTime column = .ok record := by
  unfold Record.castTime
  split
  case h_1 v hget =>
    split
    case isTrue hholds =>
      rw [h v hget hholds]
      exact congrArg Except.ok (put_of_get? hget)
    case isFalse => rfl
  case h_2 => rfl

theorem castTimes_of_settled (h : ∀ column ∈ columns, record.TimeSettled column) :
    columns.foldlM Record.castTime record = .ok record := by
  induction columns with
  | nil => rfl
  | cons column rest ih =>
    rw [List.foldlM_cons, (h column List.mem_cons_self).castTime]
    exact ih fun column hmem => h column (List.mem_cons_of_mem _ hmem)

theorem timeSettled_castTime (h : record.castTime column = .ok record') : record'.TimeSettled column := by
  intro w hw hholds
  unfold castTime at h
  split at h
  case h_1 v hget =>
    split at h
    case isTrue =>
      obtain ⟨n, hn, h⟩ := exists_of_bind_eq_ok h
      obtain rfl := Except.ok.inj h
      rw [get?_put_self record (Value.equal_text_iff.mpr rfl)] at hw
      obtain rfl := Option.some.inj hw
      exact Value.toNumber_toNumber hn
    case isFalse hnothing =>
      obtain rfl := Except.ok.inj h
      obtain rfl := Option.some.inj (hget.symm.trans hw)
      exact absurd hholds hnothing
  case h_2 hnone =>
    obtain rfl := Except.ok.inj h
    cases hnone.symm.trans hw

/-- A time that is settled is not unsettled by another. -/
theorem TimeSettled.after (h : record.TimeSettled column) {other : String}
    (hstep : record.castTime other = .ok record') : record'.TimeSettled column := by
  by_cases heq : column = other
  · subst heq
    obtain rfl := Except.ok.inj (h.castTime.symm.trans hstep)
    exact h
  · intro v hget
    exact h v ((get?_castTime hstep heq).symm.trans hget)

/-- **Casting settles the times.** -/
theorem timeSettled_castTimes (h : columns.foldlM Record.castTime record = .ok record') (hmem : column ∈ columns) :
    record'.TimeSettled column := by
  induction columns generalizing record with
  | nil => cases hmem
  | cons first rest ih =>
    rw [List.foldlM_cons] at h
    obtain ⟨middle, hstep, hsteps⟩ := exists_of_bind_eq_ok h
    rcases List.mem_cons.mp hmem with rfl | hlater
    · refine castTimes_keep (P := fun r => r.TimeSettled column) hsteps (timeSettled_castTime hstep) ?_
      intro other _ before after hother hsettled
      exact hsettled.after hother
    · exact ih hsteps hlater

end Record

/-! ## Nulls -/

namespace Model

variable {model : Model} {row record : Record} {entry : Value × Value} {column : String} {v : Value}

theorem isNull_of_zero? {a : Attribute} (h : a.zero? = some v) : v.isNull = false ∧ v.holds = false := by
  rcases Attribute.zero?_cases h with rfl | rfl | rfl
  · exact ⟨rfl, rfl⟩
  · exact ⟨rfl, rfl⟩
  · exact ⟨rfl, rfl⟩

/-- What a null of a column becomes. -/
def nullIn (model : Model) (key : Value) : Value := ((model.attribute? key).bind Attribute.zero?).getD .null

theorem zeroFill_null (model : Model) (key : Value) : model.zeroFill (key, .null) = (key, model.nullIn key) := by
  unfold zeroFill nullIn
  cases model.attribute? key <;> rfl

theorem nullIn_of_zero? {key : Value} {a : Attribute} (hdeclared : model.attribute? key = some a)
    (hzero : a.zero? = some v) : model.nullIn key = v := by
  rw [nullIn, hdeclared, Option.bind_some, hzero, Option.getD_some]

theorem nullIn_cases (model : Model) (key : Value) :
    (∃ a, model.attribute? key = some a ∧ a.zero? = some (model.nullIn key)) ∨ model.nullIn key = .null := by
  unfold nullIn
  cases model.attribute? key with
  | none => exact .inr rfl
  | some a =>
    cases hzero : a.zero? with
    | none => exact .inr (by simp [hzero])
    | some zero => exact .inl ⟨a, rfl, by simp [hzero]⟩

theorem zeroFill_zeroFill (model : Model) (entry : Value × Value) :
    model.zeroFill (model.zeroFill entry) = model.zeroFill entry := by
  obtain ⟨key, v⟩ := entry
  cases hnull : v.isNull with
  | false =>
    have hsame : model.zeroFill (key, v) = (key, v) := zeroFill_of_not_null model hnull
    rw [hsame, hsame]
  | true =>
    obtain rfl := Value.isNull_iff.mp hnull
    rw [zeroFill_null]
    rcases nullIn_cases model key with ⟨a, -, hzero⟩ | hnone
    · exact zeroFill_of_not_null model (isNull_of_zero? hzero).1
    · rw [hnone, zeroFill_null, hnone]

/-- What fills in for a null does not hold, so what holds was there before. -/
theorem zeroFill_of_holds (h : (model.zeroFill entry).2.holds = true) : model.zeroFill entry = entry := by
  obtain ⟨key, v⟩ := entry
  cases hnull : v.isNull with
  | false => exact zeroFill_of_not_null model hnull
  | true =>
    obtain rfl := Value.isNull_iff.mp hnull
    rw [zeroFill_null] at h
    rcases nullIn_cases model key with ⟨a, -, hzero⟩ | hnone
    · cases (isNull_of_zero? hzero).2.symm.trans h
    · rw [hnone] at h
      cases h

theorem get?_map_zeroFill (model : Model) (record : Record) (column : String) :
    Record.get? (record.map model.zeroFill) (.text column) =
      (record.get? (.text column)).map fun v => (model.zeroFill (.text column, v)).2 := by
  have hkeys : (fun entry : Value × Value => entry.1.equal (.text column)) ∘ model.zeroFill
      = fun entry => entry.1.equal (.text column) := by
    funext entry
    simp only [Function.comp_apply, zeroFill_key]
  unfold Record.get?
  rw [List.find?_map, hkeys]
  cases hfind : record.find? fun entry => entry.1.equal (.text column) with
  | none => rfl
  | some entry =>
    obtain ⟨key, v⟩ := entry
    have hkey : key.equal (.text column) = true := by simpa using List.find?_some hfind
    obtain rfl := Value.equal_text_iff.mp hkey
    rfl

theorem timeSettled_zeroFill (h : record.TimeSettled column) :
    Record.TimeSettled (record.map model.zeroFill) column := by
  intro w hw hholds
  rw [get?_map_zeroFill] at hw
  obtain ⟨v, hget, rfl⟩ := Option.map_eq_some_iff.mp hw
  have hsame : model.zeroFill (.text column, v) = (.text column, v) := zeroFill_of_holds hholds
  rw [hsame] at hholds ⊢
  exact h v hget hholds

/-! ## Rows -/

theorem castRecord_ok (h : model.castRecord row = .ok record) :
    ∃ timed, timeColumns.foldlM Record.castTime row = .ok timed ∧ record = timed.map model.zeroFill := by
  obtain ⟨timed, htimed, h⟩ := exists_of_bind_eq_ok h
  exact ⟨timed, htimed, (Except.ok.inj h).symm⟩

theorem castRow_map (model : Model) (row : Record) : model.castRow (.map row) = (model.castRecord row).map some := by
  show (do .ok (some (← model.castRecord row)) : Except Fault _) = _
  cases model.castRecord row <;> rfl

theorem keys_castRecord (h : model.castRecord row = .ok record) : record.map (·.1) = row.map (·.1) := by
  obtain ⟨timed, htimed, rfl⟩ := castRecord_ok h
  rw [List.map_map, ← Record.keys_castTimes htimed]
  exact List.map_congr_left fun entry _ => zeroFill_key model entry

theorem getElem?_castRecord_of_null (h : model.castRecord row = .ok record) {i : Nat} {key : Value}
    (hentry : row[i]? = some (key, .null)) : record[i]? = some (key, model.nullIn key) := by
  obtain ⟨timed, htimed, rfl⟩ := castRecord_ok h
  rw [List.getElem?_map, Record.getElem?_castTimes htimed hentry (.inr rfl), Option.map_some, zeroFill_null]

theorem getElem?_castRecord_of_not_null (h : model.castRecord row = .ok record) {i : Nat}
    (hentry : row[i]? = some entry) (hnull : entry.2.isNull = false)
    (hother : ∀ column ∈ timeColumns, entry.1 ≠ .text column) : record[i]? = some entry := by
  obtain ⟨timed, htimed, rfl⟩ := castRecord_ok h
  rw [List.getElem?_map, Record.getElem?_castTimes htimed hentry (.inl hother), Option.map_some,
    zeroFill_of_not_null model hnull]

/-- No null is left where it is not allowed. -/
theorem not_null_castRecord (h : model.castRecord row = .ok record) (hentry : entry ∈ record) {a : Attribute}
    (hdeclared : model.attribute? entry.1 = some a) (hcoerces : a.coercesNull = true) : entry.2.isNull = false := by
  obtain ⟨timed, -, rfl⟩ := castRecord_ok h
  obtain ⟨⟨key, v⟩, -, rfl⟩ := List.mem_map.mp hentry
  rw [zeroFill_key] at hdeclared
  obtain ⟨zero, hzero⟩ := Option.isSome_iff_exists.mp hcoerces
  cases hnull : v.isNull with
  | false => rw [zeroFill_of_not_null model hnull, hnull]
  | true =>
    obtain rfl := Value.isNull_iff.mp hnull
    rw [zeroFill_null, nullIn_of_zero? hdeclared hzero]
    exact (isNull_of_zero? hzero).1

/-- A time that holds becomes a number. -/
theorem get?_castRecord_of_holds (h : model.castRecord row = .ok record) (hmem : column ∈ timeColumns)
    (hget : row.get? (.text column) = some v) (hholds : v.holds = true) :
    ∃ w, v.toNumber = .ok w ∧ record.get? (.text column) = some w := by
  obtain ⟨timed, htimed, rfl⟩ := castRecord_ok h
  obtain ⟨w, hw, htime⟩ := Record.get?_castTimes_self (by decide) hmem htimed hget hholds
  have hnull : w.isNull = false := Value.isNull_toNumber hw (Value.not_null_of_holds hholds)
  refine ⟨w, hw, ?_⟩
  rw [get?_map_zeroFill, htime, Option.map_some, zeroFill_of_not_null model hnull]

theorem get?_castRecord_of_whole (h : model.castRecord row = .ok record) (hmem : column ∈ timeColumns)
    (hget : row.get? (.text column) = some v) (hholds : v.holds = true) (hwritten : v.isWritten = true)
    {negative : Bool} {c : Nat} {e n : Int} (hread : Decimal.read? v.plain = some (.finite negative c e))
    (hvalue : Decimal.value negative c e = n) : record.get? (.text column) = some (.int n) := by
  obtain ⟨w, hw, htime⟩ := get?_castRecord_of_holds h hmem hget hholds
  obtain rfl := Value.toNumber_of_whole hwritten hread hvalue hw
  exact htime

/-- **A record is its own cast.** -/
theorem castRecord_castRecord (h : model.castRecord row = .ok record) : model.castRecord record = .ok record := by
  obtain ⟨timed, htimed, rfl⟩ := castRecord_ok h
  have hsettled :
      timeColumns.foldlM Record.castTime (timed.map model.zeroFill) = .ok (timed.map model.zeroFill) := by
    apply Record.castTimes_of_settled
    intro column hmem
    apply timeSettled_zeroFill
    exact Record.timeSettled_castTimes htimed hmem
  unfold castRecord
  rw [hsettled]
  show Except.ok ((timed.map model.zeroFill).map model.zeroFill) = _
  rw [List.map_map]
  exact congrArg Except.ok (List.map_congr_left fun entry _ => zeroFill_zeroFill model entry)

/-- What casting makes of an entry, unless it is a time: a null that is not allowed becomes a zero, and that is all. -/
structure Casts (model : Model) (given made : Value × Value) : Prop where
  column : made.1 = given.1
  kept : given.2.isNull = false → (∀ column ∈ timeColumns, given.1 ≠ .text column) → made.2 = given.2
  filled : given.2.isNull = true → ∀ a zero, model.attribute? given.1 = some a → a.zero? = some zero → made.2 = zero
  left : given.2.isNull = true → (∀ a, model.attribute? given.1 = some a → a.coercesNull = false) → made.2 = .null

theorem casts_null (model : Model) (key : Value) : model.Casts (key, .null) (key, model.nullIn key) := by
  refine ⟨rfl, ?_, ?_, ?_⟩
  · intro hnull
    cases hnull
  · intro _ a zero hdeclared hzero
    show model.nullIn key = zero
    exact nullIn_of_zero? hdeclared hzero
  · intro _ hallowed
    rcases nullIn_cases model key with ⟨a, hdeclared, hzero⟩ | hnone
    · have hcoerces : a.coercesNull = true := by
        unfold Attribute.coercesNull
        rw [hzero]
        rfl
      cases (hallowed a hdeclared).symm.trans hcoerces
    · exact hnone

theorem casts_castRecord (h : model.castRecord row = .ok record) {i : Nat} (hentry : row[i]? = some entry) :
    ∃ made, record[i]? = some made ∧ model.Casts entry made := by
  obtain ⟨key, v⟩ := entry
  cases hnull : v.isNull with
  | true =>
    obtain rfl := Value.isNull_iff.mp hnull
    exact ⟨(key, model.nullIn key), getElem?_castRecord_of_null h hentry, casts_null model key⟩
  | false =>
    -- The entry may be one of the times, so no more is known of what is in its place than its column.
    have hlength : record.length = row.length := by
      simpa using congrArg List.length (keys_castRecord h)
    obtain ⟨made, hmade⟩ : ∃ made, record[i]? = some made := by
      obtain ⟨hi, -⟩ := List.getElem?_eq_some_iff.mp hentry
      exact ⟨_, List.getElem?_eq_getElem (hlength ▸ hi)⟩
    have hkey : made.1 = key := by
      have hkeys := congrArg (·[i]?) (keys_castRecord h)
      simpa [hmade, hentry] using hkeys
    refine ⟨made, hmade, hkey, ?_, ?_, ?_⟩
    · intro _ hother
      have hsame : record[i]? = some (key, v) := getElem?_castRecord_of_not_null h hentry hnull hother
      obtain rfl := Option.some.inj (hmade.symm.trans hsame)
      rfl
    · intro htrue
      cases hnull.symm.trans htrue
    · intro htrue
      cases hnull.symm.trans htrue

/-- **What becomes of a row that is cast.** The columns stay, in their order. A null becomes the zero of its attribute
if it has one and so is left only where it is allowed; what is not null stays, but for the times. A time that is
written as a numeral of a whole value becomes that number, with nothing lost. And a record that is cast stays as it
is. -/
theorem castRow_corrects {given : Value} (hgiven : given.entries = .ok row)
    (h : model.castRow given = .ok (some record)) :
    record.map (·.1) = row.map (·.1) ∧
    (∀ (i : Nat) (entry : Value × Value), row[i]? = some entry →
      ∃ made, record[i]? = some made ∧ model.Casts entry made) ∧
    (∀ entry ∈ record, ∀ a, model.attribute? entry.1 = some a → a.coercesNull = true → entry.2.isNull = false) ∧
    (∀ column ∈ timeColumns, ∀ v negative c e, ∀ n : Int, row.get? (.text column) = some v → v.holds = true →
      v.isWritten = true → Decimal.read? v.plain = some (.finite negative c e) → Decimal.value negative c e = n →
      record.get? (.text column) = some (.int n)) ∧
    model.castRow (.map record) = .ok (some record) := by
  -- A row is cast only if it is not null itself, and what is not null is cast by way of its entries.
  have hcast : model.castRecord row = .ok record := by
    cases given with
    | null => cases h
    | _ =>
      obtain ⟨entries, hentries, h⟩ := exists_of_bind_eq_ok h
      obtain rfl := Except.ok.inj (hgiven.symm.trans hentries)
      obtain ⟨made, hmade, h⟩ := exists_of_bind_eq_ok h
      obtain rfl := Option.some.inj (Except.ok.inj h)
      exact hmade
  refine ⟨keys_castRecord hcast, ?_, ?_, ?_, ?_⟩
  · intro i entry hentry
    exact casts_castRecord hcast hentry
  · intro entry hentry a hdeclared hcoerces
    exact not_null_castRecord hcast hentry hdeclared hcoerces
  · intro column hmem v negative c e n hget hholds hwritten hread hvalue
    exact get?_castRecord_of_whole hcast hmem hget hholds hwritten hread hvalue
  · rw [castRow_map, castRecord_castRecord hcast]
    rfl

/-- An attribute of every sort that matters to a null. -/
def orders : Model where
  name := "Orders"
  attributes :=
    [("id", ⟨.number, false, none, true, false, false, none⟩),
     ("title", ⟨.string, false, none, false, false, false, none⟩),
     ("buyer", ⟨.number, false, none, false, false, false, some "Users"⟩)]

/-- An order with nulls that are filled in, that are allowed and that are not declared. -/
def order (time : Value) : Record :=
  [(.text "title", .null), (.text "created_at", time), (.text "buyer", .null), (.text "note", .null)]

/-- A time beyond the whole numbers that every float can hold. -/
def late : Value := .text " 900719925474099300e-2 "

theorem castRow_corrects_of_late :
    (Value.map (order late)).entries = .ok (order late) ∧
    ∃ record, orders.castRow (.map (order late)) = .ok (some record) ∧
      record.map (·.1) = [.text "title", .text "created_at", .text "buyer", .text "note"] ∧
      (∃ made, record[0]? = some made ∧ made.2 = .text "") ∧ (∃ made, record[2]? = some made ∧ made.2 = .null) ∧
      record.get? (.text "created_at") = some (.int 9007199254740993) ∧
      orders.castRow (.map record) = .ok (some record) := by
  have hread : Decimal.read? late.plain = some (.finite false 900719925474099300 (-2)) := by decide +kernel
  have hvalue : Decimal.value false 900719925474099300 (-2) = (9007199254740993 : Int) := by norm_num [Decimal.value]
  have hnumber : late.toNumber = .ok (.int 9007199254740993) := by
    rw [Value.toNumber_of_written rfl, hread]
    simp only [Decimal.toNumber, Decimal.toInt?_eq_some_iff.mpr hvalue]
    rfl
  have htime : (order late).castTime "created_at" = .ok (order (.int 9007199254740993)) := by
    unfold Record.castTime
    show (do .ok (Record.put _ _ (← late.toNumber)) : Except Fault Record) = _
    rw [hnumber]
    rfl
  have htimes : timeColumns.foldlM Record.castTime (order late) = .ok (order (.int 9007199254740993)) := by
    have hlater (time : Value) : (order time).castTime "updated_at" = .ok (order time) := rfl
    unfold timeColumns
    rw [List.foldlM_cons, htime]
    show List.foldlM Record.castTime (order (.int 9007199254740993)) ["updated_at"] = _
    rw [List.foldlM_cons, hlater]
    rfl
  have hrecord : orders.castRow (.map (order late)) =
      .ok (some ((order (.int 9007199254740993)).map orders.zeroFill)) := by
    rw [castRow_map, castRecord, htimes]
    rfl
  obtain ⟨hkeys, hcasts, -, hwhole, htwice⟩ := castRow_corrects rfl hrecord
  obtain ⟨title, htitle, hfilled⟩ := hcasts 0 (.text "title", .null) rfl
  obtain ⟨buyer, hbuyer, hleft⟩ := hcasts 2 (.text "buyer", .null) rfl
  have hempty : title.2 = .text "" := hfilled.filled rfl _ _ rfl rfl
  have hnone : buyer.2 = .null := by
    apply hleft.left rfl
    intro a ha
    obtain rfl := Option.some.inj ha
    rfl
  refine ⟨rfl, _, hrecord, hkeys, ⟨title, htitle, hempty⟩, ⟨buyer, hbuyer, hnone⟩, ?_, htwice⟩
  exact hwhole "created_at" (by decide) late false 900719925474099300 (-2) _ rfl rfl rfl hread hvalue

end Model

end ModelStore

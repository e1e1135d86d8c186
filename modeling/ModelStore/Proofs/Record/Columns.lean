import ModelStore.Proofs.Value.Keys
import ModelStore.Record.Cast
import ModelStore.Sorting.Merge
import ModelStore.Value.Access

/-!
# Columns of records

Columns are named by texts, and a text equals only itself, so setting one column leaves the others alone. Casting
a row does not touch what is in a column unless the column is one of the two that hold times, or holds a null; the
primary key of a row that has one is neither (`get?_primaryKey_castRecord`).
-/

namespace ModelStore

namespace Record

theorem get?_put_self (record : Record) {key : Value} (hkey : key.equal key = true) (value : Value) :
    (record.put key value).get? key = some value := by
  induction record with
  | nil => simp [put, get?, hkey]
  | cons entry rest ih =>
    by_cases h : entry.1.equal key = true
    · simp [put, get?, h]
    · simpa [put, get?, h] using ih

theorem get?_put_of_ne (record : Record) {column other : String} (hne : other ≠ column) (value : Value) :
    (record.put (.text column) value).get? (.text other) = record.get? (.text other) := by
  induction record with
  | nil => simp [put, get?, Value.equal, Ne.symm hne]
  | cons entry rest ih =>
    by_cases h : entry.1.equal (.text column) = true
    · have hother : ¬ entry.1.equal (.text other) = true := by
        rw [Value.equal_text_iff] at h ⊢
        rw [h, Value.text.injEq]
        exact Ne.symm hne
      simp [put, get?, h, hother]
    · by_cases hother : entry.1.equal (.text other) = true
      · simp [put, get?, h, hother]
      · simpa [put, get?, h, hother] using ih

/-- Looking up finds what is there. -/
theorem isSome_get? (record : Record) (key : Value) : (record.get? key).isSome = record.has key := by
  unfold get? has
  rw [Option.isSome_map, Bool.eq_iff_iff, List.find?_isSome, List.any_eq_true]

theorem has_text_iff {record : Record} {column : String} :
    record.has (.text column) = true ↔ .text column ∈ record.map (·.1) := by
  simp only [has, List.any_eq_true, Value.equal_text_iff, List.mem_map]

/-- The columns stay in their places, and a new one comes last. -/
theorem keys_put (record : Record) (key value : Value) :
    (record.put key value).map (·.1) =
      if record.has key then record.map (·.1) else record.map (·.1) ++ [key] := by
  induction record with
  | nil => rfl
  | cons entry rest ih =>
    by_cases h : entry.1.equal key = true
    · simp [put, has, h]
    · have hhas : has (entry :: rest) key = has rest key := by simp [has, h]
      rw [put, if_neg h, List.map_cons, ih, hhas]
      split
      · rfl
      · rfl

/-- What stands in a record then stood there before or was put there. -/
theorem mem_put {record : Record} {key value : Value} {entry : Value × Value} (h : entry ∈ record.put key value) :
    entry ∈ record ∨ (entry.1 = key ∨ entry.1.equal key = true) ∧ entry.2 = value := by
  induction record with
  | nil =>
    obtain rfl := List.mem_singleton.mp h
    exact .inr ⟨.inl rfl, rfl⟩
  | cons first rest ih =>
    unfold put at h
    split at h
    case isTrue hequal =>
      rcases List.mem_cons.mp h with rfl | h
      · exact .inr ⟨.inr hequal, rfl⟩
      · exact .inl (List.mem_cons_of_mem _ h)
    case isFalse =>
      rcases List.mem_cons.mp h with rfl | h
      · exact .inl List.mem_cons_self
      · exact (ih h).imp_left (List.mem_cons_of_mem _)

theorem forall_put {P : Value → Prop} {record : Record} (h : ∀ entry ∈ record, P entry.2) (key : Value)
    {value : Value} (hvalue : P value) : ∀ entry ∈ record.put key value, P entry.2 := by
  intro entry hmem
  rcases mem_put hmem with hold | ⟨-, hnew⟩
  · exact h entry hold
  · rw [hnew]
    exact hvalue

theorem mem_of_get? {record : Record} {column : String} {value : Value}
    (h : record.get? (.text column) = some value) : (.text column, value) ∈ record := by
  obtain ⟨⟨key, v⟩, hfind, rfl⟩ := Option.map_eq_some_iff.mp h
  have hequal : key.equal (.text column) = true := by simpa using List.find?_some hfind
  obtain rfl := Value.equal_text_iff.mp hequal
  exact List.mem_of_find?_eq_some hfind

/-- A column that is there once has the value that stands beside it. -/
theorem get?_of_mem {record : Record} {column : String} {value : Value} (hnodup : (record.map (·.1)).Nodup)
    (h : (.text column, value) ∈ record) : record.get? (.text column) = some value := by
  induction record with
  | nil => cases h
  | cons entry rest ih =>
    obtain ⟨hnew, hrest⟩ : entry.1 ∉ rest.map (·.1) ∧ (rest.map (·.1)).Nodup := List.nodup_cons.mp hnodup
    rcases List.mem_cons.mp h with rfl | h
    · simp [get?, Value.equal]
    · have hother : ¬ entry.1.equal (.text column) = true := by
        intro heq
        rw [Value.equal_text_iff.mp heq] at hnew
        exact hnew (List.mem_map_of_mem h)
      simpa [get?, hother] using ih hrest h

theorem at?_map {record : Record} {column : String} {value : Value} (h : record.get? (.text column) = some value) :
    (Value.map record).at? (.text column) = .ok value := by
  simp only [Value.at?, Value.isKey, if_true, h]

/-- Setting a column to what is in it changes nothing. -/
theorem put_of_get? {record : Record} {column : String} {v : Value} (h : record.get? (.text column) = some v) :
    record.put (.text column) v = record := by
  induction record with
  | nil => cases h
  | cons entry rest ih =>
    by_cases hequal : entry.1.equal (.text column) = true
    · obtain rfl : entry.2 = v := by simpa [get?, hequal] using h
      simp [put, hequal]
    · have hrest : get? rest (.text column) = some v := by simpa [get?, hequal] using h
      simp [put, hequal, ih hrest]

/-- Setting a column leaves every entry in its place, and changes one at most: the first of that column. -/
theorem getElem?_put {record : Record} {column : String} {i : Nat} {entry : Value × Value}
    (h : record[i]? = some entry) (v : Value) :
    (record.put (.text column) v)[i]? = some entry ∨
      (entry.1 = .text column ∧ record.get? (.text column) = some entry.2 ∧
        (record.put (.text column) v)[i]? = some (entry.1, v)) := by
  induction record generalizing i with
  | nil => cases h
  | cons first rest ih =>
    by_cases hequal : first.1.equal (.text column) = true
    · cases i with
      | zero =>
        obtain rfl : first = entry := Option.some.inj h
        exact .inr ⟨Value.equal_text_iff.mp hequal, by simp [get?, hequal], by simp [put, hequal]⟩
      | succ i =>
        left
        simpa [put, hequal] using h
    · cases i with
      | zero =>
        left
        simpa [put, hequal] using h
      | succ i =>
        have hrest : rest[i]? = some entry := h
        simpa [put, get?, hequal] using ih hrest

/-! ## Times -/

/-- Casting a time changes nothing, or puts a number in the place of what holds. -/
theorem castTime_cases {record record' : Record} {column : String} (h : record.castTime column = .ok record') :
    record' = record ∨ ∃ v w, record.get? (.text column) = some v ∧ v.holds = true ∧ v.toNumber = .ok w ∧
      record' = record.put (.text column) w := by
  unfold castTime at h
  split at h
  case h_1 v hget =>
    split at h
    case isTrue hholds =>
      obtain ⟨w, hw, h⟩ := Sorting.exists_of_bind_eq_ok h
      exact .inr ⟨v, w, hget, hholds, hw, (Except.ok.inj h).symm⟩
    case isFalse => exact .inl (Except.ok.inj h).symm
  case h_2 => exact .inl (Except.ok.inj h).symm

/-- What casting one time keeps, casting the times keeps. -/
theorem castTimes_keep {P : Record → Prop} {columns : List String} {record record' : Record}
    (h : columns.foldlM castTime record = .ok record') (hstart : P record)
    (hstep : ∀ column ∈ columns, ∀ {first second : Record}, first.castTime column = .ok second → P first → P second) :
    P record' := by
  induction columns generalizing record with
  | nil =>
    obtain rfl := Except.ok.inj h
    exact hstart
  | cons column rest ih =>
    rw [List.foldlM_cons] at h
    obtain ⟨middle, hmiddle, hrest⟩ := Sorting.exists_of_bind_eq_ok h
    apply ih hrest (hstep column List.mem_cons_self hmiddle hstart)
    intro later hmem
    exact hstep later (List.mem_cons_of_mem _ hmem)

theorem get?_castTime {record record' : Record} {column other : String} (h : record.castTime column = .ok record')
    (hne : other ≠ column) : record'.get? (.text other) = record.get? (.text other) := by
  rcases castTime_cases h with rfl | ⟨v, w, -, -, -, rfl⟩
  · rfl
  · exact get?_put_of_ne record hne w

theorem get?_castTimes {columns : List String} {record record' : Record} {other : String}
    (h : columns.foldlM castTime record = .ok record') (hne : other ∉ columns) :
    record'.get? (.text other) = record.get? (.text other) := by
  refine castTimes_keep (P := fun r => r.get? (.text other) = record.get? (.text other)) h rfl ?_
  intro column hmem first second hstep hkept
  have hother : other ≠ column := by
    rintro rfl
    exact hne hmem
  exact (get?_castTime hstep hother).trans hkept

end Record

namespace Model

theorem zeroFill_of_not_null (model : Model) {entry : Value × Value} (h : entry.2.isNull = false) :
    model.zeroFill entry = entry := by
  unfold zeroFill
  split
  · simp_all [Value.isNull]
  · rfl

theorem zeroFill_key (model : Model) (entry : Value × Value) : (model.zeroFill entry).1 = entry.1 := by
  unfold zeroFill
  split <;> rfl

end Model
end ModelStore

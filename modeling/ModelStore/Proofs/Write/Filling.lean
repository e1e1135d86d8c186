import ModelStore.Proofs.Record.Columns
import ModelStore.Write.Defaults

/-!
# What is filled in

The columns of a record are settled one after the other, in the order of the model's attributes. What comes of it is
said of one column first, and then of all by induction on the attributes that are left, over any record.

A record that is created has the columns that were given and those that the model fills in by itself
(`Model.mem_keys_fill`). Which ones these are depends on the attributes alone: **no value that is given takes a column
away or adds one**. A record that is changed has the columns that were given and no others
(`Model.keys_fill_changing`).

What is in a column in the end was given or declared, or it is supplied by the attribute (`Attribute.settle_origin`).
A timestamp that a caller leaves open is pending (`Model.get?_fill_of_leftOpen`).
-/

namespace ModelStore

namespace Attribute

variable {a : Attribute} {occasion : Occasion} {given : Option Value} {v : Value}

/-! ## What an attribute supplies -/

/-- What takes the place of null is a text, a number or a truth value. -/
theorem zero?_cases (h : a.zero? = some v) : v = .text "" ∨ v = .int 0 ∨ v = .bool false := by
  unfold zero? at h
  split at h
  · cases h
  · cases htype : a.type with
    | string =>
      rw [htype] at h
      exact .inl (Option.some.inj h).symm
    | number =>
      rw [htype] at h
      exact .inr (.inl (Option.some.inj h).symm)
    | boolean =>
      rw [htype] at h
      exact .inr (.inr (Option.some.inj h).symm)
    | json | ref =>
      rw [htype] at h
      cases h

/-- What an attribute supplies is the time of sending or takes the place of null. -/
theorem supply?_origin (h : a.supply? occasion = some v) : v = .pending ∨ a.zero? = some v := by
  unfold supply? at h
  split at h
  · split at h
    · exact .inl (Option.some.inj h).symm
    · cases h
  · split at h
    · exact .inl (Option.some.inj h).symm
    · split at h
      · cases h
      · exact .inr h

/-! ## What a column holds in the end -/

/-- On creation, what is given comes before what is declared, and the one is treated like the other. -/
theorem settle_creating (a : Attribute) (given : Option Value) :
    a.settle .creating given = match given.or a.declaredDefault with
      | none => a.supply? .creating
      | some v => if v.isNull then some ((a.supply? .creating).getD v) else some v := by
  cases given with
  | some v => rfl
  | none =>
    rw [Option.none_or]
    unfold settle
    cases a.declaredDefault <;> rfl

/-- What a column holds in the end was given, is a declared default, or is what the attribute supplies. -/
theorem settle_origin (h : a.settle occasion given = some v) :
    given = some v ∨ (given = none ∧ a.declaredDefault = some v) ∨ a.supply? occasion = some v := by
  have hkept : ∀ {w : Value}, (if w.isNull then some ((a.supply? occasion).getD w) else some w) = some v →
      w = v ∨ a.supply? occasion = some v := by
    intro w hw
    split at hw
    · cases hsupply : a.supply? occasion with
      | none =>
        rw [hsupply] at hw
        exact .inl (Option.some.inj hw)
      | some u =>
        rw [hsupply] at hw
        exact .inr hw
    · exact .inl (Option.some.inj hw)
  cases given with
  | some w =>
    have hw : w = v ∨ a.supply? occasion = some v := by
      cases occasion with
      | creating => exact hkept h
      | changing => exact hkept h
    exact hw.imp (congrArg some) .inr
  | none =>
    cases occasion with
    | changing => cases h
    | creating =>
      rw [settle_creating, Option.none_or] at h
      cases hdeclared : a.declaredDefault with
      | none =>
        rw [hdeclared] at h
        exact .inr (.inr h)
      | some w =>
        rw [hdeclared] at h
        rcases hkept h with rfl | hsupply
        · exact .inr (.inl ⟨rfl, rfl⟩)
        · exact .inr (.inr hsupply)

/-- Whether a record that is created has a column for the attribute even if none is given. -/
def fillsIn (a : Attribute) : Bool :=
  a.declaredDefault.isSome || a.autoCreatedAt || a.autoUpdatedAt || (!a.autoIncrement && a.coercesNull)

/-- A column that is there stays. -/
theorem isSome_settle_some (occasion : Occasion) (a : Attribute) (v : Value) :
    (a.settle occasion (some v)).isSome = true := by
  cases occasion with
  | creating =>
    rw [settle_creating, Option.some_or]
    dsimp only
    split
    · rfl
    · rfl
  | changing =>
    unfold settle
    dsimp only
    split
    · rfl
    · rfl

/-- What an attribute supplies by itself does not depend on what is given. -/
theorem isSome_settle_none (a : Attribute) : (a.settle .creating none).isSome = a.fillsIn := by
  rw [settle_creating, Option.none_or]
  unfold fillsIn
  cases a.declaredDefault with
  | some v =>
    dsimp only
    split
    · rfl
    · rfl
  | none =>
    unfold supply? coercesNull
    cases a.autoCreatedAt with
    | true => rfl
    | false =>
      cases a.autoUpdatedAt with
      | true => rfl
      | false => cases a.autoIncrement <;> simp

/-! ## Timestamps that are left open -/

def isTimestamp (a : Attribute) : Bool := a.autoCreatedAt || a.autoUpdatedAt

/-- Neither the caller nor a declared default says what the column is to hold. -/
def LeftOpen (a : Attribute) (given : Option Value) : Prop :=
  ∀ v, given.or a.declaredDefault = some v → v.isNull = true ∨ v = .pending

theorem supply?_of_timestamp (h : a.isTimestamp = true) : a.supply? .creating = some .pending := by
  unfold supply?
  split
  · rfl
  case isFalse hcreated =>
    have hupdated : a.autoUpdatedAt = true := by simpa [isTimestamp, hcreated] using h
    rw [if_pos hupdated]

theorem settle_of_leftOpen (h : a.isTimestamp = true) (hopen : a.LeftOpen given) :
    a.settle .creating given = some .pending := by
  have hsupply := supply?_of_timestamp h
  rw [settle_creating]
  cases hv : given.or a.declaredDefault with
  | none => exact hsupply
  | some v =>
    rcases hopen v hv with hnull | rfl
    · dsimp only
      rw [if_pos hnull, hsupply]
      rfl
    · rfl

/-- A timestamp is filled in. -/
theorem fillsIn_of_timestamp (h : a.isTimestamp = true) : a.fillsIn = true := by
  rw [isTimestamp, Bool.or_eq_true] at h
  rcases h with h | h
  · simp [fillsIn, h]
  · simp [fillsIn, h]

end Attribute

namespace Model

variable {model : Model} {occasion : Occasion} {record : Record} {name : String} {a : Attribute}

/-! ## Which columns there are -/

/-- The columns that a model fills in by itself. -/
def FillsIn (model : Model) (column : String) : Prop := ∃ a, (column, a) ∈ model.attributes ∧ a.fillsIn = true

theorem keys_fillColumn (occasion : Occasion) (record : Record) (entry : String × Attribute) :
    (fillColumn occasion record entry).map (·.1) =
      if record.has (.text entry.1) || (entry.2.settle occasion none).isNone then record.map (·.1)
      else record.map (·.1) ++ [.text entry.1] := by
  unfold fillColumn
  dsimp only
  have hhas := Record.isSome_get? record (.text entry.1)
  cases hget : record.get? (.text entry.1) with
  | some v =>
    obtain ⟨w, hw⟩ := Option.isSome_iff_exists.mp (Attribute.isSome_settle_some occasion entry.2 v)
    rw [hget] at hhas
    simp [hw, Record.keys_put, ← hhas]
  | none =>
    rw [hget] at hhas
    cases hsettle : entry.2.settle occasion none with
    | none => simp [← hhas]
    | some w => simp [Record.keys_put, ← hhas]

theorem mem_keys_fillColumn {entry : String × Attribute} {v : Value} :
    v ∈ (fillColumn .creating record entry).map (·.1) ↔
      v ∈ record.map (·.1) ∨ (v = .text entry.1 ∧ entry.2.fillsIn = true) := by
  have hfills := entry.2.isSome_settle_none
  rw [keys_fillColumn]
  split
  case isTrue h =>
    refine ⟨.inl, ?_⟩
    rintro (hv | ⟨rfl, hsome⟩)
    · exact hv
    · -- the column is there, since the attribute leaves nothing out
      rw [hsome] at hfills
      have hhas : record.has (.text entry.1) = true := by simpa [Option.isNone_eq_false_iff.mpr hfills] using h
      exact Record.has_text_iff.mp hhas
  case isFalse h =>
    have hsome : (entry.2.settle .creating none).isNone = false := by
      rw [Bool.or_eq_true, not_or] at h
      exact Bool.eq_false_iff.mpr h.2
    have hfillsIn : entry.2.fillsIn = true := by rw [← hfills, ← Option.not_isNone, hsome, Bool.not_false]
    simp [hfillsIn]

/-- **A record that is created has the columns that are given and those that the model fills in.** -/
theorem mem_keys_fill {v : Value} : v ∈ (model.fill .creating record).map (·.1) ↔
    v ∈ record.map (·.1) ∨ ∃ column, v = .text column ∧ model.FillsIn column := by
  unfold fill FillsIn
  generalize model.attributes = attributes
  induction attributes generalizing record with
  | nil => simp
  | cons entry rest ih =>
    rw [List.foldl_cons, ih, mem_keys_fillColumn]
    constructor
    · rintro ((hv | ⟨rfl, hfills⟩) | ⟨column, rfl, a, hmem, hfills⟩)
      · exact .inl hv
      · exact .inr ⟨entry.1, rfl, entry.2, List.mem_cons_self, hfills⟩
      · exact .inr ⟨column, rfl, a, List.mem_cons_of_mem _ hmem, hfills⟩
    · rintro (hv | ⟨column, rfl, a, hmem, hfills⟩)
      · exact .inl (.inl hv)
      · rcases List.mem_cons.mp hmem with rfl | hmem
        · exact .inl (.inr ⟨rfl, hfills⟩)
        · exact .inr ⟨column, rfl, a, hmem, hfills⟩

/-- **A record that is changed has the columns that are given.** -/
theorem keys_fill_changing (model : Model) (record : Record) :
    (model.fill .changing record).map (·.1) = record.map (·.1) := by
  unfold fill
  generalize model.attributes = attributes
  induction attributes generalizing record with
  | nil => rfl
  | cons entry rest ih =>
    rw [List.foldl_cons, ih, keys_fillColumn]
    simp [Attribute.settle]

theorem fill_creating_eq_nil_iff :
    model.fill .creating record = [] ↔ record = [] ∧ ∀ column, ¬ model.FillsIn column := by
  have hempty : ∀ record : Record, record = [] ↔ ∀ v, v ∉ record.map (·.1) := by
    intro record
    rw [← List.eq_nil_iff_forall_not_mem, List.map_eq_nil_iff]
  rw [hempty, hempty record]
  simp only [mem_keys_fill, not_or, not_exists, not_and]
  constructor
  · intro h
    exact ⟨fun v => (h v).1, fun column => (h (.text column)).2 column rfl⟩
  · rintro ⟨hgiven, hfills⟩ v
    exact ⟨hgiven v, fun column _ => hfills column⟩

/-! ## What is in a column -/

theorem get?_fillColumn_of_ne {entry : String × Attribute} (hne : entry.1 ≠ name) :
    (fillColumn occasion record entry).get? (.text name) = record.get? (.text name) := by
  unfold fillColumn
  dsimp only
  split
  · exact Record.get?_put_of_ne record (Ne.symm hne) _
  · rfl

theorem get?_fillColumn_self {a : Attribute} {v : Value} (h : a.settle occasion (record.get? (.text name)) = some v) :
    (fillColumn occasion record (name, a)).get? (.text name) = some v := by
  unfold fillColumn
  dsimp only
  rw [h]
  exact Record.get?_put_self record (Value.equal_text_iff.mpr rfl) v

theorem get?_fill_of_forall_ne {attributes : Association Attribute} (h : ∀ entry ∈ attributes, entry.1 ≠ name) :
    (attributes.foldl (fillColumn occasion) record).get? (.text name) = record.get? (.text name) := by
  induction attributes generalizing record with
  | nil => rfl
  | cons entry rest ih =>
    rw [List.foldl_cons, ih fun other hmem => h other (List.mem_cons_of_mem _ hmem),
      get?_fillColumn_of_ne (h entry List.mem_cons_self)]

/-- What is there and is not null stays. -/
theorem get?_fill_of_not_null {attributes : Association Attribute} {v : Value} (hv : v.isNull = false)
    (h : record.get? (.text name) = some v) :
    (attributes.foldl (fillColumn occasion) record).get? (.text name) = some v := by
  induction attributes generalizing record with
  | nil => exact h
  | cons entry rest ih =>
    apply ih
    by_cases hne : entry.1 = name
    · obtain ⟨other, a⟩ := entry
      obtain rfl : other = name := hne
      apply get?_fillColumn_self
      rw [h]
      cases occasion with
      | creating => simp [Attribute.settle, hv]
      | changing => simp [Attribute.settle, hv]
    · rw [get?_fillColumn_of_ne hne, h]

/-- The first attribute of a name is what settles its column. -/
theorem exists_attributes_split (h : model.attributes.get? name = some a) :
    ∃ before after, model.attributes = before ++ (name, a) :: after ∧ ∀ entry ∈ before, entry.1 ≠ name := by
  obtain ⟨⟨found, b⟩, hfind, rfl⟩ := Option.map_eq_some_iff.mp h
  obtain ⟨hname, before, after, hsplit, hbefore⟩ := List.find?_eq_some_iff_append.mp hfind
  obtain rfl : found = name := by simpa using hname
  refine ⟨before, after, hsplit, ?_⟩
  intro entry hmem
  simpa using hbefore entry hmem

/-- **A timestamp that is left open is pending.** -/
theorem get?_fill_of_leftOpen (ha : model.attributes.get? name = some a) (htime : a.isTimestamp = true)
    (hopen : a.LeftOpen (record.get? (.text name))) :
    (model.fill .creating record).get? (.text name) = some .pending := by
  obtain ⟨before, after, hsplit, hbefore⟩ := exists_attributes_split ha
  unfold fill
  rw [hsplit, List.foldl_append, List.foldl_cons]
  apply get?_fill_of_not_null rfl
  apply get?_fillColumn_self
  rw [get?_fill_of_forall_ne hbefore]
  exact Attribute.settle_of_leftOpen htime hopen

/-- A record that is created has all its timestamps. -/
theorem get?_fill_of_timestamp (ha : model.attributes.get? name = some a) (htime : a.isTimestamp = true)
    (record : Record) : (model.fill .creating record).get? (.text name) ≠ none := by
  obtain ⟨before, after, hsplit, -⟩ := exists_attributes_split ha
  have hmem : (name, a) ∈ model.attributes := by
    rw [hsplit]
    exact List.mem_append_right _ List.mem_cons_self
  have hfills : model.FillsIn name := ⟨a, hmem, Attribute.fillsIn_of_timestamp htime⟩
  rw [← Option.isSome_iff_ne_none, Record.isSome_get?, Record.has_text_iff, mem_keys_fill]
  exact .inr ⟨name, rfl, hfills⟩

end Model

end ModelStore

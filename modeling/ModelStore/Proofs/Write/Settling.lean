import ModelStore.Proofs.Write.Filling

/-!
# Filling in is done once

Whatever a caller gives, filling in leaves it where it is: the columns keep their places, and what stands in them
stays unless it is a null of a declared column (`getElem?_fill`). New columns come behind the given ones, in the order
of the attributes, and only on creation (`keys_fill`). A null that is left is one that the attribute has nothing for
(`Attribute.supply?_of_settle_null`), and a pending time that is new belongs to a timestamp or was declared
(`mem_fill_pending`).

**Filling in a record that is filled in changes nothing** (`fill_of_settled`). This rests on two facts about one
column. What an attribute has settled stays as it is if it is settled again; and it stays settled whatever another
attribute makes of the column, since that puts a value there for good or leaves the null that is there. So nothing is
assumed of the attributes, not even that their names differ.
-/

namespace ModelStore

namespace Attribute

variable {a : Attribute} {occasion : Occasion} {given : Option Value} {v : Value}

/-! ## One column -/

theorem isNull_supply? (h : a.supply? occasion = some v) : v.isNull = false := by
  rcases supply?_origin h with rfl | hzero
  · rfl
  · rcases zero?_cases hzero with rfl | rfl | rfl
    · rfl
    · rfl
    · rfl

theorem settle_null (occasion : Occasion) (a : Attribute) :
    a.settle occasion (some .null) = some ((a.supply? occasion).getD .null) := by
  cases occasion with
  | creating => rfl
  | changing => rfl

/-- What is there and is not null is left alone. -/
theorem settle_of_not_null (occasion : Occasion) (a : Attribute) (h : v.isNull = false) :
    a.settle occasion (some v) = some v := by
  cases occasion with
  | creating => simp [settle, h]
  | changing => simp [settle, h]

/-- A column that is missing in the end was missing before. -/
theorem given_of_settle_none (h : a.settle occasion given = none) : given = none := by
  cases given with
  | none => rfl
  | some w =>
    have hsome := isSome_settle_some occasion a w
    rw [h] at hsome
    cases hsome

/-- Null is left where the attribute has nothing to put in its place. -/
theorem supply?_of_settle_null (h : a.settle occasion given = some .null) : a.supply? occasion = none := by
  have hnone : ∀ w, some ((a.supply? occasion).getD w) = some .null → a.supply? occasion = none := by
    intro w hw
    cases hsupply : a.supply? occasion with
    | none => rfl
    | some u =>
      rw [hsupply] at hw
      obtain rfl : u = .null := Option.some.inj hw
      cases isNull_supply? hsupply
  cases given with
  | some w =>
    cases hw : w.isNull with
    | true =>
      obtain rfl := Value.isNull_iff.mp hw
      exact hnone .null ((settle_null occasion a).symm.trans h)
    | false =>
      rw [settle_of_not_null occasion a hw] at h
      obtain rfl := Option.some.inj h
      cases hw
  | none =>
    cases occasion with
    | changing => cases h
    | creating =>
      rw [settle_creating, Option.none_or] at h
      cases hdeclared : a.declaredDefault with
      | none =>
        rw [hdeclared] at h
        cases isNull_supply? h
      | some w =>
        rw [hdeclared] at h
        dsimp only at h
        split at h
        case isTrue => exact hnone w h
        case isFalse hw =>
          obtain rfl := Option.some.inj h
          exact absurd rfl hw

/-- A record that is created lacks a column that the attribute has nothing for. -/
theorem supply?_of_settle_none (h : a.settle .creating given = none) : a.supply? .creating = none := by
  obtain rfl : given = none := given_of_settle_none h
  rw [settle_creating, Option.none_or] at h
  cases hdeclared : a.declaredDefault with
  | none =>
    rw [hdeclared] at h
    exact h
  | some w =>
    rw [hdeclared] at h
    dsimp only at h
    split at h
    · cases h
    · cases h

/-- When a null may be left in a column, or on creation the column left out: null is not replaced, or storage numbers
the records, or the time of creation is past. -/
def MayLackValue (occasion : Occasion) (a : Attribute) : Prop :=
  a.coercesNull = false ∨
    (a.autoIncrement = true ∧ a.autoUpdatedAt = false ∧ (occasion = .creating → a.autoCreatedAt = false)) ∨
    (a.autoCreatedAt = true ∧ occasion = .changing)

theorem mayLackValue_of_supply? (h : a.supply? occasion = none) :
    a.MayLackValue occasion ∧ (a.autoUpdatedAt = true → a.autoCreatedAt = true ∧ occasion = .changing) := by
  unfold supply? at h
  split at h
  case isTrue hcreated =>
    split at h
    case isTrue => cases h
    case isFalse hoccasion =>
      have hchanging : occasion = .changing := by
        cases occasion with
        | creating => exact absurd rfl hoccasion
        | changing => rfl
      exact ⟨.inr (.inr ⟨hcreated, hchanging⟩), fun _ => ⟨hcreated, hchanging⟩⟩
  case isFalse hcreated =>
    split at h
    case isTrue => cases h
    case isFalse hupdated =>
      refine ⟨?_, fun hcontra => absurd hcontra hupdated⟩
      split at h
      case isTrue hincrement =>
        exact .inr (.inl ⟨hincrement, Bool.eq_false_iff.mpr hupdated, fun _ => Bool.eq_false_iff.mpr hcreated⟩)
      case isFalse =>
        left
        rw [coercesNull, h]
        rfl

/-- Only a timestamp supplies the pending time. -/
theorem isTimestamp_of_supply? (h : a.supply? occasion = some .pending) : a.isTimestamp = true := by
  unfold supply? at h
  unfold isTimestamp
  split at h
  case isTrue hcreated => rw [hcreated, Bool.true_or]
  case isFalse =>
    split at h
    case isTrue hupdated => rw [hupdated, Bool.or_true]
    case isFalse =>
      split at h
      · cases h
      · rcases zero?_cases h with hzero | hzero | hzero
        · cases hzero
        · cases hzero
        · cases hzero

/-! ## Settling again -/

/-- The attribute has nothing more to do in the column. -/
def Settled (occasion : Occasion) (a : Attribute) (given : Option Value) : Prop := a.settle occasion given = given

theorem settled_null (h : a.supply? occasion = none) : Settled occasion a (some .null) := by
  rw [Settled, settle_null, h]
  rfl

/-- **What is settled is settled once and for all.** -/
theorem settled_settle (occasion : Occasion) (a : Attribute) (given : Option Value) :
    Settled occasion a (a.settle occasion given) := by
  cases hsettle : a.settle occasion given with
  | none =>
    obtain rfl : given = none := given_of_settle_none hsettle
    exact hsettle
  | some v =>
    cases hv : v.isNull with
    | false => exact settle_of_not_null occasion a hv
    | true =>
      obtain rfl := Value.isNull_iff.mp hv
      exact settled_null (supply?_of_settle_null hsettle)

/-- **Another attribute does not unsettle it.** -/
theorem Settled.settle (h : Settled occasion a given) (b : Attribute) :
    Settled occasion a (b.settle occasion given) := by
  cases hsettle : b.settle occasion given with
  | none =>
    obtain rfl : given = none := given_of_settle_none hsettle
    exact h
  | some v =>
    cases hv : v.isNull with
    | false => exact settle_of_not_null occasion a hv
    | true =>
      obtain rfl := Value.isNull_iff.mp hv
      cases given with
      | none =>
        -- the null was declared by the other attribute, on creation
        cases occasion with
        | changing => cases hsettle
        | creating => exact settled_null (supply?_of_settle_none h)
      | some w =>
        cases hw : w.isNull with
        | true =>
          obtain rfl := Value.isNull_iff.mp hw
          exact h
        | false =>
          rw [settle_of_not_null occasion b hw] at hsettle
          obtain rfl := Option.some.inj hsettle
          cases hw

/-- What is settled when a record is created is settled when it is changed. -/
theorem Settled.changing (h : Settled .creating a given) : Settled .changing a given := by
  cases given with
  | none => rfl
  | some v =>
    cases hv : v.isNull with
    | false => exact settle_of_not_null .changing a hv
    | true =>
      obtain rfl := Value.isNull_iff.mp hv
      have hcreating : a.supply? .creating = none := supply?_of_settle_null h
      have hcreated : a.autoCreatedAt = false := by
        rw [Bool.eq_false_iff]
        intro hcreated
        simp [supply?, hcreated] at hcreating
      refine settled_null ?_
      simpa [supply?, hcreated] using hcreating

end Attribute

namespace Model

variable {model : Model} {occasion : Occasion} {record : Record} {name : String}

/-! ## What is given -/

/-- **An entry is kept**: its column is, and so is its value unless it is a null of a declared column. -/
structure Retains (model : Model) (given kept : Value × Value) : Prop where
  column : kept.1 = given.1
  value : given.2.isNull = false → kept.2 = given.2
  undeclared : model.attribute? given.1 = none → kept = given

theorem Retains.refl (model : Model) (entry : Value × Value) : model.Retains entry entry :=
  ⟨rfl, fun _ => rfl, fun _ => rfl⟩

theorem Retains.trans {first second third : Value × Value} (h : model.Retains first second)
    (h' : model.Retains second third) : model.Retains first third := by
  refine ⟨h'.column.trans h.column, ?_, ?_⟩
  · intro hnull
    have hsame := h.value hnull
    rw [← hsame] at hnull
    exact (h'.value hnull).trans hsame
  · intro hnone
    have hsame := h.undeclared hnone
    rw [← hsame] at hnone
    exact (h'.undeclared hnone).trans hsame

theorem attribute?_ne_none {entry : String × Attribute} (h : entry ∈ model.attributes) :
    model.attribute? (.text entry.1) ≠ none := by
  unfold attribute? Association.get?
  rw [Ne, Option.map_eq_none_iff, List.find?_eq_none]
  intro hnone
  exact hnone entry h (beq_self_eq_true entry.1)

theorem getElem?_fillColumn {declared : String × Attribute} (hdeclared : declared ∈ model.attributes) {i : Nat}
    {entry : Value × Value} (h : record[i]? = some entry) :
    ∃ kept, (fillColumn occasion record declared)[i]? = some kept ∧ model.Retains entry kept := by
  unfold fillColumn
  dsimp only
  split
  case h_2 => exact ⟨entry, h, .refl model entry⟩
  case h_1 v hsettle =>
    rcases Record.getElem?_put h v with hsame | ⟨hcolumn, hget, hput⟩
    · exact ⟨entry, hsame, .refl model entry⟩
    · refine ⟨(entry.1, v), hput, rfl, ?_, ?_⟩
      · intro hnull
        rw [hget, Attribute.settle_of_not_null occasion declared.2 hnull] at hsettle
        exact (Option.some.inj hsettle).symm
      · intro hnone
        rw [hcolumn] at hnone
        exact absurd hnone (attribute?_ne_none hdeclared)

/-- **What is given is kept in its place.** -/
theorem getElem?_fill {i : Nat} {entry : Value × Value} (h : record[i]? = some entry) :
    ∃ kept, (model.fill occasion record)[i]? = some kept ∧ model.Retains entry kept := by
  unfold fill
  refine List.foldlRecOn (motive := fun filled => ∃ kept, filled[i]? = some kept ∧ model.Retains entry kept)
    model.attributes (fillColumn occasion) ⟨entry, h, .refl model entry⟩ ?_
  rintro filled ⟨kept, hkept, hretains⟩ declared hdeclared
  obtain ⟨last, hlast, hretains'⟩ := getElem?_fillColumn hdeclared hkept
  exact ⟨last, hlast, hretains.trans hretains'⟩

/-! ## What is added -/

/-- The columns that attributes add to those of a record. -/
structure Adds (occasion : Occasion) (attributes : Association Attribute) (given added : List Value) : Prop where
  declared : added.Sublist (attributes.map fun entry => .text entry.1)
  new : ∀ column ∈ added, column ∉ given
  creating : occasion = .changing → added = []

theorem Adds.none (occasion : Occasion) (attributes : Association Attribute) (given : List Value) :
    Adds occasion attributes given [] :=
  ⟨List.nil_sublist _, by simp, fun _ => rfl⟩

theorem keys_fillColumn_eq (occasion : Occasion) (record : Record) (entry : String × Attribute) :
    ∃ added, (fillColumn occasion record entry).map (·.1) = record.map (·.1) ++ added ∧
      Adds occasion [entry] (record.map (·.1)) added := by
  rw [keys_fillColumn]
  split
  case isTrue => exact ⟨[], (List.append_nil _).symm, .none occasion [entry] _⟩
  case isFalse h =>
    rw [Bool.or_eq_true, not_or, Option.isNone_iff_eq_none] at h
    refine ⟨[.text entry.1], rfl, List.Sublist.refl _, ?_, ?_⟩
    · intro column hcolumn
      rw [List.mem_singleton.mp hcolumn, ← Record.has_text_iff]
      exact h.1
    · intro hchanging
      subst hchanging
      exact absurd rfl h.2

/-- **New columns come behind the given ones**, in the order in which they are declared, and only on creation. -/
theorem keys_fill (model : Model) (occasion : Occasion) (record : Record) :
    ∃ added, (model.fill occasion record).map (·.1) = record.map (·.1) ++ added ∧
      Adds occasion model.attributes (record.map (·.1)) added := by
  unfold fill
  generalize model.attributes = attributes
  induction attributes generalizing record with
  | nil => exact ⟨[], (List.append_nil _).symm, .none occasion [] _⟩
  | cons entry rest ih =>
    obtain ⟨first, hfirst, hadds⟩ := keys_fillColumn_eq occasion record entry
    obtain ⟨more, hmore, hadds'⟩ := ih (fillColumn occasion record entry)
    refine ⟨first ++ more, ?_, hadds.declared.append hadds'.declared, ?_, ?_⟩
    · rw [List.foldl_cons, hmore, hfirst, List.append_assoc]
    · intro column hcolumn
      rcases List.mem_append.mp hcolumn with hcolumn | hcolumn
      · exact hadds.new column hcolumn
      · have hnew := hadds'.new column hcolumn
        rw [hfirst] at hnew
        exact fun hgiven => hnew (List.mem_append_left _ hgiven)
    · intro hchanging
      rw [hadds.creating hchanging, hadds'.creating hchanging]
      rfl

/-! ## What is settled -/

theorem get?_fillColumn (occasion : Occasion) (record : Record) (entry : String × Attribute) (name : String) :
    (fillColumn occasion record entry).get? (.text name) =
      if entry.1 = name then entry.2.settle occasion (record.get? (.text name)) else record.get? (.text name) := by
  obtain ⟨column, a⟩ := entry
  split
  case isFalse hne => exact get?_fillColumn_of_ne hne
  case isTrue heq =>
    obtain rfl : column = name := heq
    cases hsettle : a.settle occasion (record.get? (.text column)) with
    | some v => exact get?_fillColumn_self hsettle
    | none =>
      have hmissing : record.get? (.text column) = none := Attribute.given_of_settle_none hsettle
      rw [hmissing] at hsettle
      simp [fillColumn, hsettle, hmissing]

/-- **All columns of a record that is filled in are settled**, by each attribute of their name. -/
theorem settled_fill {declared : String × Attribute} (h : declared ∈ model.attributes) (record : Record) :
    declared.2.Settled occasion ((model.fill occasion record).get? (.text declared.1)) := by
  obtain ⟨before, after, hsplit⟩ := List.append_of_mem h
  unfold fill
  rw [hsplit, List.foldl_append, List.foldl_cons]
  -- The attribute settles its column in its turn, and those behind it do not unsettle it.
  refine List.foldlRecOn (motive := fun filled => declared.2.Settled occasion (filled.get? (.text declared.1)))
    after (fillColumn occasion) ?_ ?_
  · rw [get?_fillColumn, if_pos rfl]
    exact Attribute.settled_settle occasion declared.2 _
  · intro filled hsettled other _
    rw [get?_fillColumn]
    split
    · exact hsettled.settle other.2
    · exact hsettled

/-- **A record whose columns are settled is not changed.** -/
theorem fill_of_settled (h : ∀ declared ∈ model.attributes,
    declared.2.Settled occasion (record.get? (.text declared.1))) : model.fill occasion record = record := by
  unfold fill
  generalize model.attributes = attributes at h
  induction attributes with
  | nil => rfl
  | cons entry rest ih =>
    have hsettled : entry.2.settle occasion (record.get? (.text entry.1)) = record.get? (.text entry.1) :=
      h entry List.mem_cons_self
    have hsame : fillColumn occasion record entry = record := by
      unfold fillColumn
      dsimp only
      rw [hsettled]
      cases hget : record.get? (.text entry.1) with
      | none => rfl
      | some v => exact Record.put_of_get? hget
    rw [List.foldl_cons, hsame]
    exact ih fun declared hmem => h declared (List.mem_cons_of_mem _ hmem)

/-- What a filled-in column may lack. -/
theorem mayLackValue_of_fill {declared : String × Attribute} (hdeclared : declared ∈ model.attributes)
    (h : (model.fill occasion record).get? (.text declared.1) = some .null ∨
      (occasion = .creating ∧ (model.fill occasion record).get? (.text declared.1) = none)) :
    declared.2.MayLackValue occasion ∧
      (declared.2.autoUpdatedAt = true → declared.2.autoCreatedAt = true ∧ occasion = .changing) := by
  have hsettled : declared.2.Settled occasion ((model.fill occasion record).get? (.text declared.1)) :=
    settled_fill hdeclared record
  refine Attribute.mayLackValue_of_supply? ?_
  rcases h with hnull | ⟨rfl, hmissing⟩
  · rw [hnull] at hsettled
    exact Attribute.supply?_of_settle_null hsettled
  · rw [hmissing] at hsettled
    exact Attribute.supply?_of_settle_none hsettled

/-! ## Pending times -/

/-- Where a pending time that is not given comes from. -/
def IntroducesPending (occasion : Occasion) (attributes : Association Attribute) (column : Value) : Prop :=
  ∃ declared ∈ attributes, column = .text declared.1 ∧
    (declared.2.isTimestamp = true ∨ (occasion = .creating ∧ declared.2.declaredDefault = some .pending))

theorem mem_fillColumn_pending {declared : String × Attribute} {column : Value}
    (h : (column, .pending) ∈ fillColumn occasion record declared) :
    (column, .pending) ∈ record ∨ IntroducesPending occasion [declared] column := by
  unfold fillColumn at h
  dsimp only at h
  split at h
  case h_2 => exact .inl h
  case h_1 v hsettle =>
    rcases Record.mem_put h with hgiven | ⟨hcolumn, hpending⟩
    · exact .inl hgiven
    · obtain rfl : Value.pending = v := hpending
      have htext : column = .text declared.1 := hcolumn.elim id Value.equal_text_iff.mp
      rcases Attribute.settle_origin hsettle with hget | ⟨hmissing, hdefault⟩ | hsupply
      · left
        rw [htext]
        exact Record.mem_of_get? hget
      · right
        refine ⟨declared, List.mem_singleton_self _, htext, .inr ⟨?_, hdefault⟩⟩
        cases occasion with
        | creating => rfl
        | changing =>
          rw [hmissing] at hsettle
          cases hsettle
      · exact .inr ⟨declared, List.mem_singleton_self _, htext, .inl (Attribute.isTimestamp_of_supply? hsupply)⟩

/-- **A pending time that is new belongs to a timestamp**, or was declared as a default. -/
theorem mem_fill_pending {column : Value} (h : (column, .pending) ∈ model.fill occasion record) :
    (column, .pending) ∈ record ∨ IntroducesPending occasion model.attributes column := by
  unfold fill at h
  refine List.foldlRecOn (motive := fun filled => (column, .pending) ∈ filled →
    (column, .pending) ∈ record ∨ IntroducesPending occasion model.attributes column)
    model.attributes (fillColumn occasion) .inl ?_ h
  intro filled hfilled declared hdeclared hpending
  rcases mem_fillColumn_pending hpending with hmem | ⟨source, hsource, horigin⟩
  · exact hfilled hmem
  · obtain rfl := List.mem_singleton.mp hsource
    exact .inr ⟨source, hdeclared, horigin⟩

/-! ## The whole -/

/-- **What filling in does to a record.** What is given is kept in its place; new columns come behind, in the order of
the attributes, and only on creation; a column is left without a value only where its attribute has none to supply; a
new pending time belongs to a timestamp. And filling in once is enough, also if the record is created first and changed
then. -/
theorem fill_settles (model : Model) (occasion : Occasion) (given : Record) :
    (∀ (i : Nat) (entry : Value × Value), given[i]? = some entry →
      ∃ kept, (model.fill occasion given)[i]? = some kept ∧ model.Retains entry kept) ∧
    (∃ added, (model.fill occasion given).map (·.1) = given.map (·.1) ++ added ∧
      Adds occasion model.attributes (given.map (·.1)) added) ∧
    (∀ declared ∈ model.attributes,
      ((model.fill occasion given).get? (.text declared.1) = some .null ∨
        (occasion = .creating ∧ (model.fill occasion given).get? (.text declared.1) = none)) →
      declared.2.MayLackValue occasion ∧
        (declared.2.autoUpdatedAt = true → declared.2.autoCreatedAt = true ∧ occasion = .changing)) ∧
    (∀ column, (column, .pending) ∈ model.fill occasion given →
      (column, .pending) ∈ given ∨ IntroducesPending occasion model.attributes column) ∧
    model.fill occasion (model.fill occasion given) = model.fill occasion given ∧
    model.fill .changing (model.fill .creating given) = model.fill .creating given := by
  refine ⟨?_, keys_fill model occasion given, ?_, ?_, ?_, ?_⟩
  · intro i entry hentry
    exact getElem?_fill hentry
  · intro declared hmem hlacks
    exact mayLackValue_of_fill hmem hlacks
  · intro column hpending
    exact mem_fill_pending hpending
  · apply fill_of_settled
    intro declared hmem
    exact settled_fill hmem given
  · -- What creation has settled is settled for a change as well, since a change asks less of a column.
    apply fill_of_settled
    intro declared hmem
    exact (settled_fill hmem given).changing

/-- Every attribute is of another sort, and one is of several. -/
def visits : Model where
  name := "Visits"
  attributes :=
    [("id", ⟨.number, false, none, true, false, false, none⟩),
     ("page", ⟨.string, false, some .null, false, false, false, none⟩),
     ("opened", ⟨.number, false, none, true, true, false, none⟩),
     ("seen", ⟨.number, false, none, false, false, true, none⟩)]

/-- A visit with a column that is not declared, and a null that nothing takes the place of. -/
def visit : Record := [(.text "note", .null), (.text "id", .null), (.text "page", .null)]

theorem fill_settles_of_visit :
    visit[1]? = some (.text "id", .null) ∧
    (∃ kept, (visits.fill .creating visit)[1]? = some kept ∧ visits.Retains (.text "id", .null) kept) ∧
    (visits.fill .creating visit).get? (.text "id") = some .null ∧
    (⟨.number, false, none, true, false, false, none⟩ : Attribute).MayLackValue .creating ∧
    (.text "seen", .pending) ∈ visits.fill .creating visit ∧
    IntroducesPending .creating visits.attributes (.text "seen") ∧
    visits.fill .changing (visits.fill .creating visit) = visits.fill .creating visit := by
  obtain ⟨hkept, -, hlacks, hpending, -, htwice⟩ := fill_settles visits .creating visit
  have hnull : (visits.fill .creating visit).get? (.text "id") = some .null := rfl
  have hseen : (.text "seen", .pending) ∈ visits.fill .creating visit := Record.mem_of_get? rfl
  refine ⟨rfl, hkept 1 _ rfl, hnull, (hlacks _ List.mem_cons_self (.inl hnull)).1, hseen, ?_, htwice⟩
  refine (hpending _ hseen).resolve_left ?_
  simp [visit]

end Model

end ModelStore

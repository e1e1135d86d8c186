import ModelStore.Proofs.Sorting.Totality
import ModelStore.Proofs.Write.Filling
import ModelStore.Write.Insert

/-!
# Rows that can be inserted together

Rows can be inserted together if they have the same columns, in whatever order (`Insert.columnsOf_of_suit`), and are
refused otherwise (`Insert.columnsOf_of_not_suit`). The message of the refusal lists both sets of columns in order,
which is why there has to be an order: texts have one.
-/

namespace ModelStore

/-! ## Columns that are named -/

/-- The columns of a record are texts. -/
def Record.Named (record : Record) : Prop := ∀ v ∈ record.map (·.1), ∃ s, v = .text s

theorem Record.Named.fill {record : Record} (h : record.Named) (model : Model) :
    Record.Named (model.fill .creating record) := by
  intro v hv
  rcases Model.mem_keys_fill.mp hv with hv | ⟨column, rfl, -⟩
  · exact h v hv
  · exact ⟨column, rfl⟩

namespace Insert

theorem areKeys_of_texts {vs : List Value} (h : ∀ v ∈ vs, ∃ s, v = .text s) : Value.areKeys vs = true := by
  induction vs with
  | nil => rfl
  | cons v rest ih =>
    obtain ⟨s, rfl⟩ := h v List.mem_cons_self
    simp [Value.areKeys, Value.isKey, ih fun w hw => h w (List.mem_cons_of_mem _ hw)]

theorem isAmong_text {s : String} {vs : List Value} : (Value.text s).isAmong vs = true ↔ .text s ∈ vs := by
  simp [Value.isAmong, Value.equal_text_iff]

theorem sameSet_iff {vs ws : List Value} (hvs : ∀ v ∈ vs, ∃ s, v = .text s) (hws : ∀ v ∈ ws, ∃ s, v = .text s) :
    sameSet vs ws = true ↔ ∀ v, v ∈ vs ↔ v ∈ ws := by
  have hamong : ∀ {us us' : List Value}, (∀ v ∈ us, ∃ s, v = .text s) →
      (us.all (fun v => v.isAmong us') = true ↔ ∀ v ∈ us, v ∈ us') := by
    intro us us' hus
    rw [List.all_eq_true]
    refine forall₂_congr ?_
    intro v hv
    obtain ⟨s, rfl⟩ := hus v hv
    exact isAmong_text
  unfold sameSet
  rw [Bool.and_eq_true, hamong hvs, hamong hws]
  exact ⟨fun h v => ⟨h.1 v, h.2 v⟩, fun h => ⟨fun v => (h v).mp, fun v => (h v).mpr⟩⟩

variable {columns : List Value} {row first : Record} {later : List Record}

theorem requireColumns_of_same (hcolumns : ∀ v ∈ columns, ∃ s, v = .text s) (hrow : row.Named)
    (h : ∀ v, v ∈ row.map (·.1) ↔ v ∈ columns) : requireColumns columns (.map row) = .ok () := by
  have hsame := (sameSet_iff hrow hcolumns).mpr h
  have hkeys := areKeys_of_texts hrow
  have hkeys' := areKeys_of_texts hcolumns
  simp [requireColumns, Value.items, bind, Except.bind, hsame, hkeys, hkeys']

theorem requireColumns_of_other (hcolumns : ∀ v ∈ columns, ∃ s, v = .text s) (hrow : row.Named)
    (h : ¬ ∀ v, v ∈ row.map (·.1) ↔ v ∈ columns) :
    ∃ expected found, requireColumns columns (.map row) = .error (.refused (.unequalColumns expected found)) := by
  have hother : sameSet (row.map (·.1)) columns = false := by
    rw [Bool.eq_false_iff, ne_eq, sameSet_iff hrow hcolumns]
    exact h
  have hkeys := areKeys_of_texts hrow
  have hkeys' := areKeys_of_texts hcolumns
  obtain ⟨expected, hexpected⟩ := Value.inOrder_texts hcolumns
  obtain ⟨found, hfound⟩ := Value.inOrder_texts hrow
  refine ⟨expected, found, ?_⟩
  simp [requireColumns, Value.items, bind, Except.bind, hother, hkeys, hkeys', hexpected, hfound]

/-- **Rows are checked one by one against the columns of the first.** -/
theorem forM_requireColumns_of_same (hcolumns : ∀ v ∈ columns, ∃ s, v = .text s) (hrows : ∀ row ∈ later, row.Named)
    (h : ∀ row ∈ later, ∀ v, v ∈ row.map (·.1) ↔ v ∈ columns) :
    (later.map Value.map).forM (requireColumns columns) = .ok () := by
  induction later with
  | nil => rfl
  | cons row rest ih =>
    have hrow := requireColumns_of_same hcolumns (hrows row List.mem_cons_self) (h row List.mem_cons_self)
    have hrest := ih (fun other hmem => hrows other (List.mem_cons_of_mem _ hmem))
      fun other hmem => h other (List.mem_cons_of_mem _ hmem)
    rw [List.map_cons, List.forM_eq_forM, List.forM_cons, hrow]
    exact hrest

theorem forM_requireColumns_of_other (hcolumns : ∀ v ∈ columns, ∃ s, v = .text s) (hrows : ∀ row ∈ later, row.Named)
    (h : ¬ ∀ row ∈ later, ∀ v, v ∈ row.map (·.1) ↔ v ∈ columns) :
    ∃ expected found, (later.map Value.map).forM (requireColumns columns) =
      .error (.refused (.unequalColumns expected found)) := by
  induction later with
  | nil => exact absurd (List.forall_mem_nil _) h
  | cons row rest ih =>
    by_cases hsame : ∀ v, v ∈ row.map (·.1) ↔ v ∈ columns
    · have hrow := requireColumns_of_same hcolumns (hrows row List.mem_cons_self) hsame
      obtain ⟨expected, found, hrest⟩ := ih (fun other hmem => hrows other (List.mem_cons_of_mem _ hmem))
        fun hrest => h (List.forall_mem_cons.mpr ⟨hsame, hrest⟩)
      refine ⟨expected, found, ?_⟩
      rw [List.map_cons, List.forM_eq_forM, List.forM_cons, hrow]
      exact hrest
    · obtain ⟨expected, found, hrow⟩ := requireColumns_of_other hcolumns (hrows row List.mem_cons_self) hsame
      refine ⟨expected, found, ?_⟩
      rw [List.map_cons, List.forM_eq_forM, List.forM_cons, hrow]
      rfl

theorem columnsOf_cons (first : Record) (later : List Record) :
    columnsOf (.list ((first :: later).map .map)) = (do
      (later.map Value.map).forM (requireColumns (first.map (·.1)))
      if (first.map (·.1)).isEmpty && !(later.map Value.map).isEmpty then .error (.refused .rowsWithoutColumns)
      else .ok (first.map (·.1))) := rfl

/-- Rows that can be inserted together: their columns are those of the first row, and several rows have some. -/
def Suit (first : Record) (later : List Record) : Prop :=
  (∀ row ∈ later, ∀ v, v ∈ row.map (·.1) ↔ v ∈ first.map (·.1)) ∧ (first = [] → later = [])

theorem columnsOf_of_suit (hfirst : first.Named) (hlater : ∀ row ∈ later, row.Named) (h : Suit first later) :
    columnsOf (.list ((first :: later).map .map)) = .ok (first.map (·.1)) := by
  obtain ⟨hsame, hsome⟩ := h
  have hallowed : ((first.map (·.1)).isEmpty && !(later.map Value.map).isEmpty) = false := by
    cases first with
    | nil => simp [hsome rfl]
    | cons entry rest => rfl
  rw [columnsOf_cons, forM_requireColumns_of_same hfirst hlater hsame]
  simp only [bind, Except.bind, hallowed, Bool.false_eq_true, if_false]

/-- Whether rows were declined for their columns. -/
def concernsColumns : Refusal → Bool
  | .unequalColumns _ _ | .rowsWithoutColumns => true
  | _ => false

theorem columnsOf_of_not_suit (hfirst : first.Named) (hlater : ∀ row ∈ later, row.Named) (h : ¬ Suit first later) :
    ∃ why, columnsOf (.list ((first :: later).map .map)) = .error (.refused why) ∧ concernsColumns why = true := by
  rw [columnsOf_cons]
  by_cases hsame : ∀ row ∈ later, ∀ v, v ∈ row.map (·.1) ↔ v ∈ first.map (·.1)
  · obtain ⟨rfl, hne⟩ : first = [] ∧ later ≠ [] := Classical.not_imp.mp fun hsome => h ⟨hsame, hsome⟩
    have hseveral : (!(later.map Value.map).isEmpty) = true := by simpa using hne
    refine ⟨.rowsWithoutColumns, ?_, rfl⟩
    rw [forM_requireColumns_of_same hfirst hlater hsame]
    simp only [bind, Except.bind, List.map_nil, List.isEmpty_nil, hseveral, Bool.and_self, if_true]
  · obtain ⟨expected, found, hother⟩ := forM_requireColumns_of_other hfirst hlater hsame
    refine ⟨.unequalColumns expected found, ?_, rfl⟩
    rw [hother]
    rfl

end Insert

end ModelStore

import ModelStore.Criteria
import ModelStore.Proofs.Write.Filling
import ModelStore.Proofs.Write.Forms
import ModelStore.Write.Timestamps

/-!
# Where pending times are

A pending time is resolved if it *is* an argument, and not if it is inside of one. So what has to be seen to is that
none gets inside: that a value which is flat (`Value.Flat`: a pending time, or nothing with one in it) is still flat
when it is bound. Between the caller's hand and the argument a value may be replaced by a default, brought into the
form of its column, moved to the place that the first row gives its column, or gathered in a list that a condition
is about.

The other half is about the automatic timestamps of an insertion: in whatever row and at whatever place the column of
one stands, a caller who leaves it open has bound a pending time (`pending_of_leftOpen`).
-/

namespace ModelStore

open Sorting (exists_of_bind_eq_ok)

/-! ## Values -/

namespace Value

mutual

/-- There is no pending time in a value, and it is none. -/
def Unmarked : Value → Prop
  | pending => False
  | list items => UnmarkedItems items
  | tuple items => UnmarkedItems items
  | map entries => UnmarkedEntries entries
  | _ => True

def UnmarkedItems : List Value → Prop
  | [] => True
  | v :: rest => Unmarked v ∧ UnmarkedItems rest

def UnmarkedEntries : List (Value × Value) → Prop
  | [] => True
  | (k, v) :: rest => Unmarked k ∧ Unmarked v ∧ UnmarkedEntries rest

end

theorem unmarkedItems_iff (items : List Value) : UnmarkedItems items ↔ ∀ v ∈ items, v.Unmarked := by
  induction items with
  | nil => simp [UnmarkedItems]
  | cons v rest ih => simp [UnmarkedItems, ih]

/-- A pending time, or a value without one in it. -/
def Flat (v : Value) : Prop := v = .pending ∨ v.Unmarked

variable {v : Value}

/-- The items of a flat sequence may be gathered in a list. -/
theorem Flat.list_of_sequence? {items : List Value} (h : v.Flat) (hitems : v.sequence? = some items) :
    (Value.list items).Flat := by
  rcases h with rfl | h
  · cases hitems
  · cases v with
    | list items' =>
      obtain rfl := Option.some.inj hitems
      exact .inr h
    | tuple items' =>
      obtain rfl := Option.some.inj hitems
      exact .inr h
    | _ => cases hitems

end Value

/-! ## What is filled in -/

def Record.Flat (record : Record) : Prop := ∀ entry ∈ record, Value.Flat entry.2

/-- The defaults that a model declares are flat. -/
def Model.Flat (model : Model) : Prop :=
  ∀ entry ∈ model.attributes, ∀ v, entry.2.declaredDefault = some v → v.Flat

theorem Record.Flat.get? {record : Record} (h : record.Flat) {key value : Value} (hget : record.get? key = some value) :
    value.Flat := by
  obtain ⟨entry, hfind, rfl⟩ := Option.map_eq_some_iff.mp hget
  exact h entry (List.mem_of_find?_eq_some hfind)

namespace Attribute

variable {a : Attribute} {occasion : Occasion} {v : Value}

theorem unmarked_zero? (h : a.zero? = some v) : v.Unmarked := by
  rcases zero?_cases h with rfl | rfl | rfl
  · trivial
  · trivial
  · trivial

theorem flat_supply? (h : a.supply? occasion = some v) : v.Flat := by
  rcases supply?_origin h with rfl | hzero
  · exact .inl rfl
  · exact .inr (unmarked_zero? hzero)

/-- **What a column holds in the end is flat** if what was given and what is declared is. -/
theorem flat_settle {given : Option Value} (hdeclared : ∀ v, a.declaredDefault = some v → v.Flat)
    (hgiven : ∀ v, given = some v → v.Flat) (h : a.settle occasion given = some v) : v.Flat := by
  rcases settle_origin h with h | ⟨-, h⟩ | h
  · exact hgiven v h
  · exact hdeclared v h
  · exact flat_supply? h

end Attribute

theorem Model.Flat.fillColumn {record : Record} {occasion : Occasion} {entry : String × Attribute}
    (hentry : ∀ v, entry.2.declaredDefault = some v → v.Flat) (hrecord : record.Flat) :
    (Model.fillColumn occasion record entry).Flat := by
  unfold Model.fillColumn
  dsimp only
  split
  case h_1 v hsettle =>
    have hv := Attribute.flat_settle hentry (fun _ hget => hrecord.get? hget) hsettle
    exact Record.forall_put hrecord _ hv
  case h_2 => exact hrecord

theorem Model.Flat.fill {model : Model} (hmodel : model.Flat) (occasion : Occasion) {record : Record}
    (hrecord : record.Flat) : (model.fill occasion record).Flat := by
  unfold Model.Flat at hmodel
  unfold Model.fill
  generalize model.attributes = attributes at hmodel
  induction attributes generalizing record with
  | nil => exact hrecord
  | cons entry rest ih =>
    rw [List.foldl_cons]
    exact ih (Model.Flat.fillColumn (hmodel entry List.mem_cons_self) hrecord)
      (fun other hmem => hmodel other (List.mem_cons_of_mem _ hmem))

/-! ## What is bound -/

theorem Model.flat_serialize {model : Model} {column v w : Value} (hv : v.Flat)
    (h : model.serialize column v = .ok w) : w.Flat := by
  cases Model.serialize_eq_ok_iff.mp h with
  | kept => exact hv
  | json => exact .inr trivial

theorem mem_bindUntil {cells : List (Except Fault Value)} {v : Value} (h : v ∈ (bindUntil cells).1) :
    .ok v ∈ cells := by
  induction cells with
  | nil => cases h
  | cons cell rest ih =>
    cases cell with
    | error fault => cases h
    | ok w =>
      rcases List.mem_cons.mp h with rfl | h
      · exact List.mem_cons_self
      · exact List.mem_cons_of_mem _ (ih h)

theorem Bound.arguments_ofCells {α : Type} (cells : List (Except Fault Value)) (built : α) :
    (Bound.ofCells cells built).arguments = (bindUntil cells).1 := by
  unfold Bound.ofCells
  split
  case h_1 heq => rw [heq]
  case h_2 heq => rw [heq]

theorem Bound.flat_ofCells {α : Type} {cells : List (Except Fault Value)} {built : α}
    (h : ∀ v, .ok v ∈ cells → v.Flat) : ∀ v ∈ (Bound.ofCells cells built).arguments, v.Flat := by
  intro v hmem
  rw [arguments_ofCells] at hmem
  exact h v (mem_bindUntil hmem)

theorem Update.flat_build {model : Model} {record : Record} (h : record.Flat) :
    ∀ v ∈ (Update.build model 0 record).arguments, v.Flat := by
  apply Bound.flat_ofCells
  intro v hmem
  obtain ⟨entry, hentry, hcell⟩ := List.mem_map.mp hmem
  exact Model.flat_serialize (h entry hentry) hcell

namespace Insert

variable {model : Model}

theorem flat_cells {columns : List Value} {record : Record} (h : record.Flat) {v : Value}
    (hmem : .ok v ∈ cells model columns (.map record)) : v.Flat := by
  obtain ⟨column, -, hcell⟩ := List.mem_map.mp hmem
  obtain ⟨w, hw, hserialize⟩ := exists_of_bind_eq_ok hcell
  refine Model.flat_serialize ?_ hserialize
  unfold Value.at? at hw
  dsimp only at hw
  split at hw
  · split at hw
    case h_1 value hget =>
      obtain rfl := Except.ok.inj hw
      exact h.get? hget
    case h_2 => cases hw
  · cases hw

theorem flat_firstCells {columns : List Value} {record : Record} (h : record.Flat) {v : Value}
    (hmem : .ok v ∈ firstCells model columns (.map record)) : v.Flat := by
  obtain ⟨entry, hentry, hcell⟩ := List.mem_map.mp hmem
  exact Model.flat_serialize (h entry hentry) hcell

theorem flat_allCells {columns : List Value} {rows : List Record} (h : ∀ row ∈ rows, Record.Flat row) {v : Value}
    (hmem : .ok v ∈ allCells model columns (rows.map .map)) : v.Flat := by
  cases rows with
  | nil => cases hmem
  | cons first later =>
    rcases List.mem_append.mp hmem with hfirst | hlater
    · exact flat_firstCells (h first List.mem_cons_self) hfirst
    · obtain ⟨row, hrow, hcell⟩ := List.mem_flatMap.mp hlater
      obtain ⟨record, hrecord, rfl⟩ := List.mem_map.mp hrow
      exact flat_cells (h record (List.mem_cons_of_mem _ hrecord)) hcell

theorem flat_build {rows : List Record} (h : ∀ row ∈ rows, Record.Flat row) :
    ∀ v ∈ (build model 0 (.list (rows.map .map))).arguments, v.Flat := by
  unfold build
  have hitems : (Value.list (rows.map .map)).items = .ok (rows.map .map) := rfl
  rw [hitems]
  split
  case h_1 => exact List.forall_mem_nil _
  case h_2 => exact List.forall_mem_nil _
  case h_3 columns rows' hcolumns hrows =>
    obtain rfl := Except.ok.inj hrows
    split
    · exact List.forall_mem_nil _
    · exact Bound.flat_ofCells fun v => flat_allCells h

end Insert

/-! ## What conditions are about -/

/-- Criteria of flat values, or of operators on flat values. -/
def Criteria.Flat : Value → Prop
  | .map entries => ∀ entry ∈ entries, Value.Flat entry.2 ∨
      ∃ operator operand, entry.2 = .map [(operator, operand)] ∧ Value.Flat operand
  | criteria => criteria.Flat

theorem Condition.flat_operator {op : Condition.Operator} {operand : Value} (h : operand.Flat) (column : String) :
    ∀ v ∈ (Condition.mk column (op.test operand)).operands, v.Flat := by
  cases op with
  | compares comparison =>
    intro v hmem
    obtain rfl := List.mem_singleton.mp hmem
    exact h
  | differs =>
    unfold Condition.Operator.test
    dsimp only
    split
    · exact List.forall_mem_nil _
    · split
      case h_1 items hitems =>
        intro v hmem
        obtain rfl := List.mem_singleton.mp hmem
        exact h.list_of_sequence? hitems
      case h_2 =>
        intro v hmem
        obtain rfl := List.mem_singleton.mp hmem
        exact h

theorem Condition.flat_test? {column value : Value} {test : Test} {name : String}
    (hvalue : value.Flat ∨ ∃ operator operand, value = .map [(operator, operand)] ∧ operand.Flat)
    (h : Condition.test? column value = .ok test) : ∀ v ∈ (Condition.mk name test).operands, v.Flat := by
  have hequals : ∀ {w : Value}, w.Flat → (Except.ok (.equals w) : Except Fault Test) = .ok test →
      ∀ v ∈ (Condition.mk name test).operands, v.Flat := by
    intro w hw heq v hmem
    obtain rfl := Except.ok.inj heq
    obtain rfl := List.mem_singleton.mp hmem
    exact hw
  have hamong : ∀ {items : List Value}, (Value.list items).Flat →
      (Except.ok (.among items) : Except Fault Test) = .ok test → ∀ v ∈ (Condition.mk name test).operands, v.Flat := by
    intro items hitems heq v hmem
    obtain rfl := Except.ok.inj heq
    obtain rfl := List.mem_singleton.mp hmem
    exact hitems
  have hoperator : ∀ {operator operand : Value}, operand.Flat →
      Condition.test? column (.map [(operator, operand)]) = .ok test →
      ∀ v ∈ (Condition.mk name test).operands, v.Flat := by
    intro operator operand hoperand heq
    unfold Condition.test? at heq
    cases hop : Condition.operator? operator with
    | none => simp [hop] at heq
    | some op =>
      simp only [hop] at heq
      obtain rfl := Except.ok.inj heq
      exact flat_operator hoperand name
  rcases hvalue with hflat | ⟨operator, operand, rfl, hoperand⟩
  · cases value with
    | null =>
      obtain rfl := Except.ok.inj h
      exact List.forall_mem_nil _
    | list items => exact hamong hflat h
    | tuple items => exact hamong (hflat.list_of_sequence? rfl) h
    | map entries =>
      -- only a mapping with a single entry is a test
      obtain ⟨operator, operand, rfl⟩ : ∃ operator operand, entries = [(operator, operand)] := by
        unfold Condition.test? at h
        split at h
        case h_4 operator operand heq => exact ⟨operator, operand, Value.map.inj heq⟩
        all_goals simp_all
      rcases hflat with heq | hunmarked
      · cases heq
      · exact hoperator (.inr hunmarked.2.1) h
    | _ => exact hequals hflat h
  · exact hoperator hoperand h

theorem Criteria.flat_operands {criteria : Value} {conditions : List Condition} (hflat : Criteria.Flat criteria)
    (h : Criteria.parse criteria = .ok conditions) : ∀ v ∈ Criteria.operands conditions, v.Flat := by
  have hkey : ∀ {key : Value}, key.Flat → (Except.ok [⟨primaryKey, .equals key⟩] : Except Fault (List Condition)) =
      .ok conditions → ∀ v ∈ Criteria.operands conditions, v.Flat := by
    intro key hkey heq v hmem
    obtain rfl := Except.ok.inj heq
    obtain rfl := List.mem_singleton.mp hmem
    exact hkey
  cases criteria with
  | null =>
    obtain rfl := Except.ok.inj h
    exact List.forall_mem_nil _
  | list items => cases h
  | tuple items => cases h
  | map entries =>
    have h : (entries.mapM fun entry => Condition.parse entry.1 entry.2) = .ok conditions := h
    clear hkey
    induction entries generalizing conditions with
    | nil =>
      obtain rfl := Except.ok.inj h
      exact List.forall_mem_nil _
    | cons entry rest ih =>
      rw [List.mapM_cons] at h
      obtain ⟨condition, hcondition, h⟩ := exists_of_bind_eq_ok h
      obtain ⟨others, hothers, h⟩ := exists_of_bind_eq_ok h
      obtain rfl := Except.ok.inj h
      intro v hmem
      rw [operands, List.flatMap_cons] at hmem
      rcases List.mem_append.mp hmem with hfirst | hrest
      · obtain ⟨test, htest, hcondition⟩ := exists_of_bind_eq_ok hcondition
        split at hcondition
        case h_1 name hname =>
          obtain rfl := Except.ok.inj hcondition
          exact Condition.flat_test? (hflat entry List.mem_cons_self) htest v hfirst
        case h_2 => cases hcondition
      · exact ih (fun other hother => hflat other (List.mem_cons_of_mem _ hother)) hothers hothers v hrest
  | _ => exact hkey hflat h

namespace Insert

variable {model : Model} {columns : List Value} {name : String}

/-- If rows can be inserted, what is bound is their cells. -/
theorem allCells_eq {first : Record} {later : List Record} {parts : Parts} (hne : first ≠ [])
    (h : (build model 0 (.list ((first :: later).map .map))).outcome = .ok parts) :
    allCells model (first.map (·.1)) ((first :: later).map .map) =
      (build model 0 (.list ((first :: later).map .map))).arguments.map .ok := by
  unfold build at h ⊢
  have hitems : (Value.list ((first :: later).map .map)).items = .ok ((first :: later).map .map) := rfl
  rw [hitems] at h ⊢
  cases hcolumns : columnsOf (.list ((first :: later).map .map)) with
  | error fault =>
    rw [hcolumns] at h
    cases h
  | ok columns =>
    obtain ⟨rfl, -⟩ := columnsOf_ok hcolumns
    rw [hcolumns] at h
    have hsome : (first.map (·.1)).isEmpty = false := by simpa using hne
    simp only [hsome, Bool.false_eq_true, if_false] at h ⊢
    exact Bound.cells_of_ofCells_ok h

/-- Where the cells of a later row are. -/
theorem getElem?_cells {rows : List Record} {row : Record} {i j : Nat} (hrow : rows[i]? = some row)
    (hj : j < columns.length) :
    ((rows.map Value.map).flatMap (cells model columns))[i * columns.length + j]? =
      (cells model columns (.map row))[j]? := by
  induction rows generalizing i with
  | nil => simp at hrow
  | cons first rest ih =>
    have hlength : (cells model columns (.map first)).length = columns.length := List.length_map _
    rw [List.map_cons, List.flatMap_cons]
    cases i with
    | zero =>
      obtain rfl : first = row := by simpa using hrow
      rw [Nat.zero_mul, Nat.zero_add, List.getElem?_append_left (by omega)]
    | succ i =>
      have hindex : (i + 1) * columns.length + j = columns.length + (i * columns.length + j) := by
        rw [Nat.succ_mul]
        omega
      rw [hindex, ← hlength, List.getElem?_append_right (Nat.le_add_right _ _), Nat.add_sub_cancel_left, hlength]
      exact ih (by simpa using hrow)

/-- A later row's cell of a column that is pending. -/
theorem getElem?_cells_pending {row : Record} {j : Nat} (hj : columns[j]? = some (.text name))
    (hpending : row.get? (.text name) = some .pending) :
    (cells model columns (.map row))[j]? = some (.ok .pending) := by
  have hat : (Value.map row).at? (.text name) = .ok .pending := Record.at?_map hpending
  unfold cells
  rw [List.getElem?_map, hj]
  show some ((Value.map row).at? (.text name) >>= model.serialize (.text name)) = _
  rw [hat]
  rfl

/-- The first row's cell of a column, at the first place where the column is. -/
theorem getElem?_firstCells (model : Model) {row : Record} {v : Value} (h : row.get? (.text name) = some v) :
    ∃ j : Nat, (row.map (·.1))[j]? = some (Value.text name) ∧
      (firstCells model (row.map (·.1)) (.map row))[j]? = some (model.serialize (.text name) v) := by
  obtain ⟨⟨key, v⟩, hfind, rfl⟩ := Option.map_eq_some_iff.mp h
  obtain ⟨hkey, j, hj, hentry, -⟩ := List.find?_eq_some_iff_getElem.mp hfind
  obtain rfl := Value.equal_text_iff.mp hkey
  refine ⟨j, ?_, ?_⟩
  · rw [List.getElem?_map, List.getElem?_eq_getElem hj, hentry]
    rfl
  · unfold firstCells
    rw [List.getElem?_map, List.getElem?_eq_getElem hj, hentry]
    rfl

/-- The cells of all rows are the first row's, and then the others'. -/
theorem getElem?_allCells (model : Model) {first : Record} {later : List Record} {row : Record} {i j : Nat}
    (hj : j < (first.map (·.1)).length) (hrow : later[i]? = some row) :
    (allCells model (first.map (·.1)) ((first :: later).map .map))[(i + 1) * (first.map (·.1)).length + j]? =
      (cells model (first.map (·.1)) (.map row))[j]? := by
  have hlength : (firstCells model (first.map (·.1)) (.map first)).length = (first.map (·.1)).length := by
    rw [firstCells, List.length_map, List.length_map]
  have hindex : (i + 1) * (first.map (·.1)).length + j =
      (firstCells model (first.map (·.1)) (.map first)).length + (i * (first.map (·.1)).length + j) := by
    rw [hlength, Nat.succ_mul]
    omega
  rw [List.map_cons, allCells, hindex, List.getElem?_append_right (Nat.le_add_right _ _), Nat.add_sub_cancel_left]
  exact getElem?_cells hrow hj

/-- **Wherever a timestamp is left open, a pending time is bound.** The first row says which place is the column's. -/
theorem pending_of_leftOpen {a : Attribute} (ha : model.attributes.get? name = some a) (htime : a.isTimestamp = true)
    {first : Record} {later : List Record} {parts : Parts}
    (h : (build model 0 (.list (((first :: later).map (model.fill .creating)).map .map))).outcome = .ok parts) :
    ∃ j : Nat, ((model.fill .creating first).map (·.1))[j]? = some (Value.text name) ∧
      ∀ (i : Nat) (row : Record), (first :: later)[i]? = some row → a.LeftOpen (row.get? (.text name)) →
        (build model 0 (.list (((first :: later).map (model.fill .creating)).map .map))).arguments[
          i * (model.fill .creating first).length + j]? = some .pending := by
  obtain ⟨v, hv⟩ := Option.ne_none_iff_exists'.mp (Model.get?_fill_of_timestamp ha htime first)
  obtain ⟨j, hj, hcell⟩ := getElem?_firstCells model hv
  have hne : model.fill .creating first ≠ [] := by
    intro hnil
    rw [hnil] at hv
    cases hv
  rw [List.map_cons] at h ⊢
  have hcells := allCells_eq hne h
  refine ⟨j, hj, ?_⟩
  intro i row hrow hopen
  have hpending := Model.get?_fill_of_leftOpen ha htime hopen
  have hall : (allCells model ((model.fill .creating first).map (·.1))
      ((model.fill .creating first :: later.map (model.fill .creating)).map .map))[
        i * (model.fill .creating first).length + j]? = some (Except.ok Value.pending) := by
    cases i with
    | zero =>
      obtain rfl : first = row := by simpa using hrow
      obtain rfl := Option.some.inj (hv.symm.trans hpending)
      rw [Nat.zero_mul, Nat.zero_add, List.map_cons, allCells,
        List.getElem?_append_left (List.getElem?_eq_some_iff.mp hcell).1, hcell]
      rfl
    | succ i =>
      have hrow' : (later.map (model.fill .creating))[i]? = some (model.fill .creating row) := by
        rw [List.getElem?_map, show later[i]? = some row by simpa using hrow]
        rfl
      have hlater := getElem?_allCells model (List.getElem?_eq_some_iff.mp hj).1 hrow'
      rw [List.length_map] at hlater
      rw [hlater]
      exact getElem?_cells_pending hj hpending
  rw [hcells, List.getElem?_map] at hall
  obtain ⟨w, hw, hok⟩ := Option.map_eq_some_iff.mp hall
  rw [hw, Except.ok.inj hok]

end Insert

end ModelStore

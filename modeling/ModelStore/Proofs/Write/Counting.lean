import ModelStore.Write.Insert
import ModelStore.Write.Update

/-!
# How many values a written statement binds

A statement that writes refers to its arguments by position, and it is put together before they are all
bound: the placeholders of an insertion are counted out from the number of columns and rows, those of an
update from the number of columns. **As many values are bound as were counted**, provided that all of them
can be bound at all; and for rows this rests on their sharing the columns of the first.
-/

namespace ModelStore

open Sorting (exists_of_bind_eq_ok)

/-- If all cells can be bound, each is bound once. -/
theorem length_of_bindUntil {cells : List (Except Fault Value)} {bound : List Value}
    (h : bindUntil cells = (bound, none)) : bound.length = cells.length := by
  induction cells generalizing bound with
  | nil => rw [← (Prod.mk.inj h).1]; rfl
  | cons cell rest ih =>
    cases cell with
    | error fault => exact absurd (Prod.mk.inj h).2 (by simp)
    | ok v =>
      obtain ⟨hbound, hfailure⟩ := Prod.mk.inj h
      rw [← hbound, List.length_cons, List.length_cons, ih (Prod.ext rfl hfailure)]

theorem map_ok_of_bindUntil {cells : List (Except Fault Value)} {bound : List Value}
    (h : bindUntil cells = (bound, none)) : cells = bound.map .ok := by
  induction cells generalizing bound with
  | nil =>
    obtain rfl := (Prod.mk.inj h).1
    rfl
  | cons cell rest ih =>
    cases cell with
    | error fault => exact absurd (Prod.mk.inj h).2 (by simp)
    | ok v =>
      obtain ⟨hbound, hfailure⟩ := Prod.mk.inj h
      rw [← hbound, List.map_cons, ← ih (Prod.ext rfl hfailure)]

theorem Bound.ofCells_ok {α : Type} {cells : List (Except Fault Value)} {built result : α}
    (h : (Bound.ofCells cells built).outcome = .ok result) :
    result = built ∧ (Bound.ofCells cells built).arguments.length = cells.length := by
  unfold Bound.ofCells at h ⊢
  cases hcells : bindUntil cells with
  | mk arguments failure =>
    cases failure with
    | none =>
      rw [hcells] at h
      exact ⟨(Except.ok.inj h).symm, length_of_bindUntil hcells⟩
    | some fault =>
      rw [hcells] at h
      exact absurd h (by simp)

/-- What is built has all its cells bound. -/
theorem Bound.cells_of_ofCells_ok {α : Type} {cells : List (Except Fault Value)} {built result : α}
    (h : (Bound.ofCells cells built).outcome = .ok result) :
    cells = (Bound.ofCells cells built).arguments.map .ok := by
  unfold ofCells at h ⊢
  cases hcells : bindUntil cells with
  | mk arguments failure =>
    cases failure with
    | none => exact map_ok_of_bindUntil hcells
    | some fault =>
      rw [hcells] at h
      cases h

/-- What cannot be built fails at one of its cells. -/
theorem Bound.mem_of_ofCells_error {α : Type} {cells : List (Except Fault Value)} {built : α} {fault : Fault}
    (h : (Bound.ofCells cells built).outcome = .error fault) : .error fault ∈ cells := by
  have hfailure : (bindUntil cells).2 = some fault := by
    unfold ofCells at h
    split at h
    case h_1 => cases h
    case h_2 hcells => rw [hcells, Except.error.inj h]
  clear h
  induction cells with
  | nil => cases hfailure
  | cons cell rest ih =>
    cases cell with
    | error other =>
      obtain rfl := Option.some.inj hfailure
      exact List.mem_cons_self
    | ok v => exact List.mem_cons_of_mem _ (ih hfailure)

/-- An update binds one value for each column. -/
theorem Update.build_ok {model : Model} {record : Record} {sql : Sql}
    (h : (Update.build model 0 record).outcome = .ok sql) :
    sql = Update.assignments 0 record ∧ (Update.build model 0 record).arguments.length = record.length := by
  obtain ⟨hsql, hcount⟩ := Bound.ofCells_ok h
  exact ⟨hsql, hcount.trans (List.length_map _)⟩

namespace Insert

/-- The columns are those of the first row, and only a single row may be without any. -/
theorem columnsOf_ok {first : Record} {later : List Record} {columns : List Value}
    (h : columnsOf (.list ((first :: later).map .map)) = .ok columns) :
    columns = first.map (·.1) ∧ (columns = [] → later = []) := by
  have hholds : (Value.list ((first :: later).map .map)).holds = true := rfl
  have hfirst : (Value.list ((first :: later).map .map)).at? (.int 0) = .ok (.map first) := rfl
  have hlater : laterRows (.list ((first :: later).map .map)) = .ok (later.map .map) := rfl
  unfold columnsOf at h
  rw [hholds, hfirst, hlater] at h
  obtain ⟨row, hrow, h⟩ := exists_of_bind_eq_ok h
  obtain rfl : Value.map first = row := Except.ok.inj hrow
  obtain ⟨found, hfound, h⟩ := exists_of_bind_eq_ok h
  obtain rfl : first.map (·.1) = found := Except.ok.inj hfound
  obtain ⟨rows, hrows, h⟩ := exists_of_bind_eq_ok h
  obtain rfl : later.map .map = rows := Except.ok.inj hrows
  obtain ⟨_, -, h⟩ := exists_of_bind_eq_ok h
  split at h
  · exact absurd h (by simp)
  · next hallowed =>
    obtain rfl := Except.ok.inj h
    refine ⟨rfl, ?_⟩
    intro hnone
    simpa [hnone] using hallowed

theorem build_of_columns {model : Model} {bound : Nat} {rows : Value} {columns items : List Value}
    (hcolumns : columnsOf rows = .ok columns) (hitems : rows.items = .ok items) (hsome : columns ≠ []) :
    build model bound rows = .ofCells (allCells model columns items)
      ⟨columnsSql columns, valuesSql bound columns.length items.length⟩ := by
  have hnonempty : columns.isEmpty = false := by simpa using hsome
  simp only [build, hcolumns, hitems, hnonempty, Bool.false_eq_true, if_false]

/-- The cells of all rows, counted. -/
theorem length_allCells (model : Model) (first : Record) (later : List Record) :
    (allCells model (first.map (·.1)) ((first :: later).map .map)).length
      = (first.map (·.1)).length * (first :: later).length := by
  have hlater : ((later.map Value.map).flatMap (cells model (first.map (·.1)))).length
      = first.length * later.length := by
    induction later with
    | nil => simp
    | cons row rest ih =>
      rw [List.map_cons, List.flatMap_cons, List.length_append, ih, cells, List.length_map, List.length_map,
        List.length_cons, Nat.mul_succ, Nat.add_comm]
  rw [List.map_cons, allCells, List.length_append, hlater, firstCells, List.length_map, List.length_map,
    List.length_cons, Nat.mul_succ, Nat.add_comm]

/-- **An insertion binds one value for each column of each row.** -/
theorem build_ok {model : Model} {first : Record} {later : List Record} {parts : Parts}
    (h : (build model 0 (.list ((first :: later).map .map))).outcome = .ok parts) :
    (build model 0 (.list ((first :: later).map .map))).arguments.length
        = (first.map (·.1)).length * (first :: later).length ∧
      parts = if first = [] then ⟨[], []⟩
        else ⟨columnsSql (first.map (·.1)), valuesSql 0 (first.map (·.1)).length (first :: later).length⟩ := by
  unfold build at h ⊢
  have hitems : (Value.list ((first :: later).map .map)).items = .ok ((first :: later).map .map) := rfl
  rw [hitems] at h ⊢
  cases hcolumns : columnsOf (.list ((first :: later).map .map)) with
  | error fault =>
    rw [hcolumns] at h
    exact absurd h (by simp [Bound.unbound])
  | ok columns =>
    obtain ⟨rfl, -⟩ := columnsOf_ok hcolumns
    rw [hcolumns] at h
    cases first with
    | nil =>
      obtain rfl := Except.ok.inj h
      exact ⟨by simp [Bound.unbound], rfl⟩
    | cons entry first =>
      obtain ⟨hparts, hcount⟩ := Bound.ofCells_ok h
      rw [if_neg (by simp)]
      refine ⟨hcount.trans (length_allCells model (entry :: first) later), ?_⟩
      simp only [hparts, List.length_map]

end Insert
end ModelStore

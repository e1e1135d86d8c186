import ModelStore.Proofs.Write.Counting

/-!
# Writing and binding as one goes

The values of rows and of assignments are bound one after the other, and each is written as the placeholder of the
place that it gets, behind whatever others have bound. **What comes of this is what was counted out**
(`Insert.result_compile`, `Update.result_compile`): the text is that of `build` for the number of arguments that
were there, and behind these stand the values that can be bound, up to the first that cannot.

The induction is on the cells, over any arguments that are bound already. Rows are cells, too, but the count in a row
starts where the row before it ends; that all rows are of one width is what makes the place of a cell a product.
-/

namespace ModelStore

open Binding
open Sorting (exists_of_bind_eq_ok)

/-! ## Cells -/

theorem bindUntil_append (first second : List (Except Fault Value)) :
    bindUntil (first ++ second) = match bindUntil first with
      | (vs, none) => (vs ++ (bindUntil second).1, (bindUntil second).2)
      | (vs, some fault) => (vs, some fault) := by
  induction first with
  | nil => simp [bindUntil]
  | cons cell rest ih =>
    cases cell with
    | error fault => rfl
    | ok v =>
      rw [List.cons_append, bindUntil, ih, bindUntil]
      cases bindUntil rest with
      | mk vs failure => cases failure <;> rfl

theorem result_writeCell (cell : Except Fault Value) (arguments : List Value) :
    (writeCell cell).result arguments = match cell with
      | .ok v => (.ok [.placeholder (arguments.length + 1)], arguments ++ [v])
      | .error fault => (.error fault, arguments) := by
  rw [writeCell, result_bind, result_lift]
  cases cell with
  | error fault => rfl
  | ok v => exact result_value v arguments

/-- **Cells are bound up to the first that has no value**; if all have one, they have placeholders in a row. -/
theorem result_mapM_writeCell (cells : List (Except Fault Value)) (arguments : List Value) :
    (cells.mapM writeCell).result arguments = match bindUntil cells with
      | (vs, none) => (.ok (Sql.placeholders arguments.length cells.length), arguments ++ vs)
      | (vs, some fault) => (.error fault, arguments ++ vs) := by
  induction cells generalizing arguments with
  | nil => simp [result_ok, bindUntil, Sql.placeholders]
  | cons cell rest ih =>
    rw [List.mapM_cons, result_bind, result_writeCell]
    cases cell with
    | error fault => simp [bindUntil]
    | ok v =>
      simp only
      rw [result_bind, ih, bindUntil]
      cases bindUntil rest with
      | mk vs failure =>
        cases failure with
        | some fault => simp
        | none => simp [result_ok, Sql.placeholders_succ]

namespace Insert

/-! ## Rows -/

theorem result_writeRow (cells : List (Except Fault Value)) (arguments : List Value) :
    (writeRow cells).result arguments = match bindUntil cells with
      | (vs, none) => (.ok (rowSql arguments.length cells.length), arguments ++ vs)
      | (vs, some fault) => (.error fault, arguments ++ vs) := by
  rw [writeRow, result_bind, result_mapM_writeCell]
  cases bindUntil cells with
  | mk vs failure => cases failure <;> rfl

/-- **Rows of one width are counted through.** -/
theorem result_mapM_writeRow {width : Nat} {rows : List (List (Except Fault Value))}
    (hwidth : ∀ cells ∈ rows, cells.length = width) (arguments : List Value) :
    (rows.mapM writeRow).result arguments = match bindUntil rows.flatten with
      | (vs, none) =>
        (.ok ((List.range rows.length).map fun i => rowSql (arguments.length + i * width) width), arguments ++ vs)
      | (vs, some fault) => (.error fault, arguments ++ vs) := by
  induction rows generalizing arguments with
  | nil => simp [result_ok, bindUntil]
  | cons cells rest ih =>
    have hrest := ih fun other hmem => hwidth other (List.mem_cons_of_mem _ hmem)
    have hcells : cells.length = width := hwidth cells List.mem_cons_self
    rw [List.mapM_cons, result_bind, result_writeRow, List.flatten_cons, bindUntil_append]
    cases hbound : bindUntil cells with
    | mk vs failure =>
      cases failure with
      | some fault => rfl
      | none =>
        -- the rows that follow are counted from where this one ends
        have hends : (arguments ++ vs).length = arguments.length + width := by
          rw [List.length_append, length_of_bindUntil hbound, hcells]
        simp only
        rw [result_bind, hrest, hends, hcells]
        cases bindUntil rest.flatten with
        | mk ws failure =>
          cases failure with
          | some fault => simp
          | none => simp [result_ok, map_rowSql_succ]

/-- Every row has a cell for each column. -/
theorem length_of_mem_rowCells {model : Model} {columns rows : List Value} {cells : List (Except Fault Value)}
    {first : Value} (hfirst : first.items = .ok columns) (hmem : cells ∈ rowCells model columns (first :: rows)) :
    cells.length = columns.length := by
  rcases List.mem_cons.mp hmem with rfl | hmem
  · unfold firstCells
    split
    case h_1 es =>
      obtain rfl := Except.ok.inj hfirst
      rw [List.length_map, List.length_map]
    case h_2 => exact List.length_map _
  · obtain ⟨row, -, rfl⟩ := List.mem_map.mp hmem
    exact List.length_map _

/-- The columns are what the first of the rows yields. -/
theorem items_of_columnsOf {rows : Value} {columns : List Value} (h : columnsOf rows = .ok columns) :
    ∃ first later, rows.items = .ok (first :: later) ∧ first.items = .ok columns := by
  unfold columnsOf at h
  split at h
  · cases h
  · obtain ⟨first, hfirst, h⟩ := exists_of_bind_eq_ok h
    obtain ⟨found, hfound, h⟩ := exists_of_bind_eq_ok h
    obtain ⟨later, hlater, h⟩ := exists_of_bind_eq_ok h
    obtain ⟨_, -, h⟩ := exists_of_bind_eq_ok h
    split at h
    · cases h
    · obtain rfl := Except.ok.inj h
      have hhead : ∀ {vs : List Value}, Value.itemAt vs 0 = .ok first → ∃ rest, vs = first :: rest := by
        intro vs hitem
        cases vs with
        | nil => cases hitem
        | cons v rest =>
          obtain rfl := Except.ok.inj hitem
          exact ⟨rest, rfl⟩
      cases rows with
      | map es => cases hlater
      | list vs =>
        obtain ⟨rest, rfl⟩ := hhead hfirst
        exact ⟨first, rest, rfl, hfound⟩
      | tuple vs =>
        obtain ⟨rest, rfl⟩ := hhead hfirst
        exact ⟨first, rest, rfl, hfound⟩
      | text s =>
        obtain ⟨rest, hrest⟩ := hhead hfirst
        exact ⟨first, rest, congrArg Except.ok hrest, hfound⟩
      | bytes bs =>
        obtain ⟨rest, hrest⟩ := hhead hfirst
        exact ⟨first, rest, congrArg Except.ok hrest, hfound⟩
      | _ => cases hfirst

/-- **Compiling rows is building them behind the arguments that are there.** -/
theorem result_compile (model : Model) (rows : Value) (arguments : List Value) :
    (compile model rows).result arguments =
      ((build model arguments.length rows).outcome, arguments ++ (build model arguments.length rows).arguments) := by
  unfold compile build
  rw [result_bind, result_lift]
  cases hcolumns : columnsOf rows with
  | error fault => simp [Bound.unbound]
  | ok columns =>
    obtain ⟨first, later, hitems, hfirst⟩ := items_of_columnsOf hcolumns
    simp only
    rw [result_bind, result_lift, hitems]
    simp only
    split
    · simp [result_ok, Bound.unbound]
    · have hwidth : ∀ cells ∈ rowCells model columns (first :: later), cells.length = columns.length :=
        fun cells hmem => length_of_mem_rowCells hfirst hmem
      rw [result_bind, result_mapM_writeRow hwidth, flatten_rowCells, Bound.ofCells]
      cases bindUntil (allCells model columns (first :: later)) with
      | mk vs failure =>
        cases failure with
        | some fault => rfl
        | none => simp [result_ok, rowCells, valuesSql]

end Insert

namespace Update

theorem result_writeColumn (model : Model) (entry : Value × Value) (arguments : List Value) :
    (writeColumn model entry).result arguments = match model.serialize entry.1 entry.2 with
      | .ok v => (.ok (assignment arguments.length 0 entry.1), arguments ++ [v])
      | .error fault => (.error fault, arguments) := by
  rw [writeColumn, result_bind, result_writeCell]
  cases model.serialize entry.1 entry.2 <;> rfl

theorem result_mapM_writeColumn (model : Model) (record : Record) (arguments : List Value) :
    (record.mapM (writeColumn model)).result arguments = match bindUntil (cells model record) with
      | (vs, none) => (.ok (record.mapIdx fun i entry => assignment arguments.length i entry.1), arguments ++ vs)
      | (vs, some fault) => (.error fault, arguments ++ vs) := by
  induction record generalizing arguments with
  | nil => simp [result_ok, bindUntil, cells]
  | cons entry rest ih =>
    rw [List.mapM_cons, result_bind, result_writeColumn, cells, List.map_cons, ← cells]
    cases model.serialize entry.1 entry.2 with
    | error fault => simp [bindUntil]
    | ok v =>
      simp only
      rw [result_bind, ih, bindUntil]
      cases bindUntil (cells model rest) with
      | mk vs failure =>
        cases failure with
        | some fault => simp
        | none => simp [result_ok, List.mapIdx_cons, assignment_succ]

/-- **Compiling a record is building it behind the arguments that are there.** -/
theorem result_compile (model : Model) (record : Record) (arguments : List Value) :
    (compile model record).result arguments =
      ((build model arguments.length record).outcome,
        arguments ++ (build model arguments.length record).arguments) := by
  rw [compile, result_bind, result_mapM_writeColumn, build, Bound.ofCells]
  cases bindUntil (cells model record) with
  | mk vs failure => cases failure <;> rfl

end Update

end ModelStore

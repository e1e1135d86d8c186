import ModelStore.Proofs.Criteria.Decoding
import ModelStore.Proofs.Record.Join
import ModelStore.Proofs.Sql.Tuples
import ModelStore.Proofs.Write.Columns
import ModelStore.Proofs.Write.Compiling
import ModelStore.Proofs.Write.Forms

/-!
# Where values end up

The rows of an insertion may have their columns in orders of their own; the statement has one order for all. So that
no value lands in a column or a row that is not its own is a question of what the text and the arguments say
*together*: the columns are in the one text, the rows are tuples of numbers in the other, and the numbers are places
in a list that others have written to before. `Insert.decode?` and `Update.decode?` read these texts and that list and
nothing else. **What they read is what was given** (`written_in_place`), each value in the form that its column asks
for (`Model.Binds`).

An insertion that is refused is refused for its rows, before the first value is bound (`Insert.arguments_of_refused`).
It may still fail later, at a value that has no form to be bound in; that is no refusal.
-/

namespace ModelStore

open Sql

namespace Insert

/-- **Rows that are refused leave nothing behind.** -/
theorem arguments_of_refused {model : Model} {bound : Nat} {rows : Value} {why : Refusal}
    (h : (build model bound rows).outcome = .error (.refused why)) : (build model bound rows).arguments = [] := by
  cases hcolumns : columnsOf rows with
  | error fault => simp only [build, hcolumns, Bound.unbound]
  | ok columns =>
    obtain ⟨first, later, hitems, -⟩ := items_of_columnsOf hcolumns
    by_cases hsome : columns = []
    · simp [build, hcolumns, hitems, hsome, Bound.unbound]
    · -- only a value can fail from here on
      rw [build_of_columns hcolumns hitems hsome] at h
      obtain ⟨how, hrefused⟩ := misuses_of_mem_allCells (Bound.mem_of_ofCells_error h) _ rfl
      cases hrefused

/-! ## The values of rows -/

/-- Rows that share their columns, each with them in an order of its own; the first row's order is the columns'. -/
structure Share (columns : List String) (first : Record) (later : List Record) : Prop where
  nonempty : columns ≠ []
  distinct : columns.Nodup
  ordered : first.map (·.1) = columns.map .text
  shared : ∀ row ∈ later, (row.map (·.1)).Perm (columns.map .text)

namespace Share

variable {columns : List String} {first row : Record} {later : List Record}

theorem perm (h : Share columns first later) (hrow : row ∈ first :: later) :
    (row.map (·.1)).Perm (columns.map .text) := by
  rcases List.mem_cons.mp hrow with rfl | hrow
  · rw [h.ordered]
  · exact h.shared row hrow

theorem nodup (h : Share columns first later) (hrow : row ∈ first :: later) : (row.map (·.1)).Nodup := by
  have htexts : (columns.map Value.text).Nodup :=
    List.pairwise_map.mpr (h.distinct.imp fun hne heq => hne (Value.text.inj heq))
  exact (h.perm hrow).nodup_iff.mpr htexts

theorem named (h : Share columns first later) (hrow : row ∈ first :: later) : row.Named := by
  intro v hv
  obtain ⟨column, -, rfl⟩ := List.mem_map.mp ((h.perm hrow).mem_iff.mp hv)
  exact ⟨column, rfl⟩

/-- Every row has a value for each column. -/
theorem exists_get? (h : Share columns first later) (hrow : row ∈ first :: later) {column : String}
    (hcolumn : column ∈ columns) : ∃ v, (.text column, v) ∈ row ∧ row.get? (.text column) = some v := by
  have hkey := (h.perm hrow).mem_iff.mpr (List.mem_map_of_mem (f := Value.text) hcolumn)
  obtain ⟨⟨key, v⟩, hmem, rfl⟩ := List.mem_map.mp hkey
  exact ⟨v, hmem, Record.get?_of_mem (h.nodup hrow) hmem⟩

/-- Every entry of a row is its value for one of the columns. -/
theorem exists_column (h : Share columns first later) (hrow : row ∈ first :: later) {entry : Value × Value}
    (hentry : entry ∈ row) :
    ∃ column ∈ columns, entry.1 = .text column ∧ row.get? (.text column) = some entry.2 := by
  obtain ⟨column, hcolumn, hkey⟩ := List.mem_map.mp ((h.perm hrow).mem_iff.mp (List.mem_map_of_mem hentry))
  refine ⟨column, hcolumn, hkey.symm, Record.get?_of_mem (h.nodup hrow) ?_⟩
  rw [hkey]
  exact hentry

theorem columnsOf_eq (h : Share columns first later) :
    columnsOf (.list ((first :: later).map .map)) = .ok (columns.map .text) := by
  have hsuit : Suit first later := by
    refine ⟨?_, ?_⟩
    · intro row hrow v
      rw [(h.shared row hrow).mem_iff, h.ordered]
    · rintro rfl
      exact absurd (List.map_eq_nil_iff.mp h.ordered.symm) h.nonempty
  rw [← h.ordered]
  exact columnsOf_of_suit (h.named List.mem_cons_self) (fun row hrow => h.named (List.mem_cons_of_mem _ hrow)) hsuit

/-- The first row's own order is that of the columns. -/
theorem allCells_eq (h : Share columns first later) (model : Model) :
    allCells model (columns.map .text) ((first :: later).map .map) =
      ((first :: later).map Value.map).flatMap (cells model (columns.map .text)) := by
  have hfirst : firstCells model (columns.map .text) (.map first) = cells model (columns.map .text) (.map first) := by
    rw [← h.ordered, firstCells, cells, List.map_map]
    refine List.map_congr_left ?_
    intro entry hentry
    obtain ⟨column, -, hkey, hget⟩ := h.exists_column List.mem_cons_self hentry
    simp only [Function.comp_apply, hkey, Record.at?_map hget, bind, Except.bind]
  rw [List.map_cons, allCells, hfirst, List.flatMap_cons]

/-- Each value of a row is among the cells. -/
theorem mem_allCells (h : Share columns first later) (hrow : row ∈ first :: later) {entry : Value × Value}
    (hentry : entry ∈ row) (model : Model) :
    model.serialize entry.1 entry.2 ∈ allCells model (columns.map .text) ((first :: later).map .map) := by
  obtain ⟨column, hcolumn, hkey, hget⟩ := h.exists_column hrow hentry
  rw [h.allCells_eq model, List.mem_flatMap]
  refine ⟨.map row, List.mem_map_of_mem hrow, List.mem_map.mpr ⟨.text column, List.mem_map_of_mem hcolumn, ?_⟩⟩
  simp only [Record.at?_map hget, hkey, bind, Except.bind]

end Share

/-- **What is bound for a column of a row**: the row's value, in the form that the column asks for. -/
def Shows (model : Model) (row : Record) (column : String) (w : Value) : Prop :=
  ∃ v, row.get? (.text column) = some v ∧ model.Binds (.text column) v w

theorem cells_eq_map_ok {model : Model} {columns : List String} {row : Record}
    (h : ∀ column ∈ columns, ∃ w, Shows model row column w) :
    ∃ ws : List Value, cells model (columns.map .text) (.map row) = ws.map .ok ∧
      List.Forall₂ (Shows model row) columns ws := by
  induction columns with
  | nil => exact ⟨[], rfl, .nil⟩
  | cons column rest ih =>
    obtain ⟨w, v, hget, hbinds⟩ := h column List.mem_cons_self
    obtain ⟨ws, hws, hall⟩ := ih fun other hmem => h other (List.mem_cons_of_mem _ hmem)
    refine ⟨w :: ws, ?_, .cons ⟨v, hget, hbinds⟩ hall⟩
    have hcell : ((Value.map row).at? (.text column) >>= model.serialize (.text column)) = .ok w := by
      rw [Record.at?_map hget]
      exact Model.serialize_eq_ok_iff.mpr hbinds
    rw [cells, List.map_cons, List.map_cons, List.map_cons, ← hws, hcell, cells]

theorem flatMap_cells_eq_map_ok {model : Model} {columns : List String} {rows : List Record}
    (h : ∀ row ∈ rows, ∀ column ∈ columns, ∃ w, Shows model row column w) :
    ∃ values : List (List Value),
      (rows.map Value.map).flatMap (cells model (columns.map .text)) = values.flatten.map .ok ∧
        List.Forall₂ (fun row ws => List.Forall₂ (Shows model row) columns ws) rows values := by
  induction rows with
  | nil => exact ⟨[], rfl, .nil⟩
  | cons row rest ih =>
    obtain ⟨ws, hws, hrow⟩ := cells_eq_map_ok (h row List.mem_cons_self)
    obtain ⟨values, hvalues, hall⟩ := ih fun other hmem => h other (List.mem_cons_of_mem _ hmem)
    refine ⟨ws :: values, ?_, .cons hrow hall⟩
    rw [List.map_cons, List.flatMap_cons, hws, hvalues, List.flatten_cons, List.map_append]

theorem length_of_shows {model : Model} {columns : List String} {rows : List Record} {values : List (List Value)}
    (h : List.Forall₂ (fun row ws => List.Forall₂ (Shows model row) columns ws) rows values) :
    ∀ ws ∈ values, ws.length = columns.length := by
  induction h with
  | nil => exact List.forall_mem_nil _
  | cons hrow _ ih => exact List.forall_mem_cons.mpr ⟨hrow.length_eq.symm, ih⟩

/-! ## The reader -/

/-- The argument that a token stands for. -/
def argumentOf? (arguments : List Value) : Token → Option Value
  | .placeholder n => Condition.argument? arguments n
  | _ => none

/-- **Reads the columns, the values and the arguments of an insertion**: the columns, and the values of each row. -/
def decode? (columns values : String) (arguments : List Value) : Option (List String × List (List Value)) := do
  let [names] ← tuples? Token.name? (← lex columns) | none
  let rows ← tuples? (argumentOf? arguments) (← lex values)
  some (names, rows)

/-- A row's placeholders stand for its values, if these are found behind those that were bound before. -/
theorem writesTuple_rowSql (before after : List Value) {ws : List Value} (hne : ws ≠ []) :
    WritesTuple (argumentOf? (before ++ (ws ++ after))) (rowSql before.length ws.length) ws := by
  have hplaceholders : placeholders before.length ws.length =
      ((List.range ws.length).map fun i => Token.placeholder (before.length + i + 1)).map fun token => [token] := by
    rw [List.map_map]
    rfl
  rw [rowSql, hplaceholders]
  refine writesTuple_of_tokens (by simpa using hne) (by simp) ?_
  rw [List.forall₂_map_left_iff, List.forall₂_iff_get]
  refine ⟨List.length_range, ?_⟩
  intro i _ hi
  have hat : (before ++ (ws ++ after))[before.length + i]? = some ws[i] := by
    rw [List.getElem?_append_right (Nat.le_add_right _ _), Nat.add_sub_cancel_left, List.getElem?_append_left hi,
      List.getElem?_eq_getElem hi]
  simpa [argumentOf?, Condition.argument?] using hat

/-- **Rows count on from one another.** -/
theorem writesTuple_rows {width : Nat} (hwidth : 0 < width) {values : List (List Value)}
    (h : ∀ ws ∈ values, ws.length = width) (before : List Value) :
    List.Forall₂ (WritesTuple (argumentOf? (before ++ values.flatten)))
      ((List.range values.length).map fun i => rowSql (before.length + i * width) width) values := by
  induction values generalizing before with
  | nil => exact .nil
  | cons ws rest ih =>
    have hlength : ws.length = width := h ws List.mem_cons_self
    have hne : ws ≠ [] := List.ne_nil_of_length_pos (hlength ▸ hwidth)
    have hfirst := writesTuple_rowSql before rest.flatten hne
    -- to the rows that follow, the values of this one are bound already
    have hrest := ih (fun other hmem => h other (List.mem_cons_of_mem _ hmem)) (before ++ ws)
    rw [List.length_append, List.append_assoc, hlength] at hrest
    rw [hlength] at hfirst
    rw [List.length_cons, map_rowSql_succ, List.flatten_cons]
    exact .cons hfirst hrest

theorem writesTuple_columnsSql {columns : List String} (hne : columns ≠ []) :
    WritesTuple Token.name? (columnsSql (columns.map .text)) columns := by
  have hnames : (columns.map Value.text).map (fun column => [Token.name column.plain]) =
      (columns.map Token.name).map fun token => [token] := by
    rw [List.map_map, List.map_map]
    rfl
  rw [columnsSql, hnames]
  refine writesTuple_of_tokens (by simpa using hne) (by simp) ?_
  rw [List.forall₂_map_left_iff, List.forall₂_same]
  exact fun _ _ => rfl

/-- **What is written of rows is read back**, whatever was bound before. -/
theorem decode?_parts {columns : List String} (hne : columns ≠ []) {values : List (List Value)} (hsome : values ≠ [])
    (h : ∀ ws ∈ values, ws.length = columns.length) (before : List Value) :
    decode? (columnsSql (columns.map .text)).render (valuesSql before.length columns.length values.length).render
      (before ++ values.flatten) = some (columns, values) := by
  have hnames : tuples? Token.name? (tight (columnsSql (columns.map .text))) = some [columns] := by
    have hlisted : listed [columnsSql (columns.map .text)] = columnsSql (columns.map .text) := by
      simp [listed, joined]
    rw [← hlisted]
    exact tuples?_listed (List.cons_ne_nil _ _) (.cons (writesTuple_columnsSql hne) .nil)
  have hrows : tuples? (argumentOf? (before ++ values.flatten))
      (tight (valuesSql before.length columns.length values.length)) = some values :=
    tuples?_listed (by simpa using hsome) (writesTuple_rows (List.length_pos_of_ne_nil hne) h before)
  have hlex := lex_render (says_columns (columns.map .text) 0).legible
  have hlex' := lex_render (says_values before.length columns.length values.length).legible
  rw [← tight] at hlex hlex'
  simp [decode?, hlex, hlex', hnames, hrows]

/-! ## Compiling rows -/

section

variable {model : Model} {columns : List String} {first : Record} {later : List Record}

/-- **Rows of which every value has a form are compiled**, and read back with every value in its place. -/
theorem compile_of_forms (h : Share columns first later)
    (hforms : ∀ row ∈ first :: later, ∀ entry ∈ row, ∃ w, model.Binds entry.1 entry.2 w) (arguments : List Value) :
    ∃ parts values,
      (compile model (.list ((first :: later).map .map))).result arguments =
        (.ok parts, arguments ++ values.flatten) ∧
      values.flatten.length = (first :: later).length * columns.length ∧
      decode? parts.columns.render parts.values.render (arguments ++ values.flatten) = some (columns, values) ∧
      List.Forall₂ (fun row ws => List.Forall₂ (Shows model row) columns ws) (first :: later) values := by
  have hshown : ∀ row ∈ first :: later, ∀ column ∈ columns, ∃ w, Shows model row column w := by
    intro row hrow column hcolumn
    obtain ⟨v, hmem, hget⟩ := h.exists_get? hrow hcolumn
    obtain ⟨w, hbinds⟩ := hforms row hrow _ hmem
    exact ⟨w, v, hget, hbinds⟩
  obtain ⟨values, hcells, hall⟩ := flatMap_cells_eq_map_ok hshown
  rw [← h.allCells_eq model] at hcells
  have hbuilt : build model arguments.length (.list ((first :: later).map .map)) =
      ⟨values.flatten, .ok ⟨columnsSql (columns.map .text),
        valuesSql arguments.length columns.length values.length⟩⟩ := by
    have hsome : columns.map Value.text ≠ [] := by simpa using h.nonempty
    rw [build_of_columns h.columnsOf_eq rfl hsome, hcells, Bound.ofCells, bindUntil_map_ok, List.length_map,
      List.length_map, hall.length_eq]
  have hcount : values.flatten.length = (first :: later).length * columns.length := by
    have hlength := congrArg List.length hcells
    rw [List.length_map, ← h.ordered, length_allCells, h.ordered, List.length_map] at hlength
    rw [← hlength, Nat.mul_comm]
  have hvalues : values ≠ [] := by
    rintro rfl
    cases hall
  refine ⟨⟨columnsSql (columns.map .text), valuesSql arguments.length columns.length values.length⟩, values, ?_, hcount,
    decode?_parts h.nonempty hvalues (length_of_shows hall) arguments, hall⟩
  rw [result_compile, hbuilt]

/-- A value without a form is misused. -/
theorem compile_without_form (h : Share columns first later) {row : Record} (hrow : row ∈ first :: later)
    {entry : Value × Value} (hentry : entry ∈ row) (hnone : ∀ w, ¬ model.Binds entry.1 entry.2 w)
    (arguments : List Value) : ∃ how after,
      (compile model (.list ((first :: later).map .map))).result arguments = (.error (.misused how), after) := by
  have hsome : columns.map Value.text ≠ [] := by simpa using h.nonempty
  have hunbound : ∀ w, model.serialize entry.1 entry.2 ≠ .ok w := by
    intro w hw
    exact hnone w (Model.serialize_eq_ok_iff.mp hw)
  obtain ⟨how, hhow⟩ := Bound.misused_of_mem (fun _ hcell => misuses_of_mem_allCells hcell)
    (h.mem_allCells hrow hentry model) hunbound (Parts.mk (columnsSql (columns.map .text))
      (valuesSql arguments.length (columns.map Value.text).length ((first :: later).map Value.map).length))
  rw [result_compile, build_of_columns h.columnsOf_eq rfl hsome, hhow]
  exact ⟨how, _, rfl⟩

end

end Insert

/-! ## Assignments -/

namespace Update

/-- The column and the argument of an assignment. -/
def assignmentOf? (arguments : List Value) : Sql → Option (String × Value)
  | [.name column, .mark .equal, .placeholder n] => (Condition.argument? arguments n).map (column, ·)
  | _ => none

/-- **Reads the assignments and the arguments of an update**: the columns with their values. -/
def decode? (text : String) (arguments : List Value) : Option (List (String × Value)) := do
  match ← lex text with
  | [] => some []
  | tokens => (tokens.splitOn (.mark .comma)).mapM (assignmentOf? arguments)

/-- **What is assigned for an entry**: its column gets its value, in the form that the column asks for. -/
def Assigns (model : Model) (entry : Value × Value) (assigned : String × Value) : Prop :=
  assigned.1 = entry.1.plain ∧ model.Binds entry.1 entry.2 assigned.2

variable {model : Model} {record : Record}

theorem cells_eq_map_ok (h : ∀ entry ∈ record, ∃ w, model.Binds entry.1 entry.2 w) :
    ∃ assigned : List (String × Value), cells model record = (assigned.map (·.2)).map .ok ∧
      List.Forall₂ (Assigns model) record assigned := by
  induction record with
  | nil => exact ⟨[], rfl, .nil⟩
  | cons entry rest ih =>
    obtain ⟨w, hbinds⟩ := h entry List.mem_cons_self
    obtain ⟨assigned, hcells, hall⟩ := ih fun other hmem => h other (List.mem_cons_of_mem _ hmem)
    refine ⟨(entry.1.plain, w) :: assigned, ?_, .cons ⟨rfl, hbinds⟩ hall⟩
    rw [cells, List.map_cons, List.map_cons, List.map_cons, ← hcells, Model.serialize_eq_ok_iff.mpr hbinds, cells]

/-- Assignments count on from one another. -/
theorem mapM_assignmentOf? {assigned : List (String × Value)} (h : List.Forall₂ (Assigns model) record assigned)
    (before : List Value) :
    ((record.mapIdx fun i entry => assignment before.length i entry.1).map tight).mapM
      (assignmentOf? (before ++ assigned.map (·.2))) = some assigned := by
  induction h generalizing before with
  | nil => rfl
  | @cons entry given record assigned hentry _ ih =>
    have hfirst : assignmentOf? (before ++ given.2 :: assigned.map (·.2))
        (tight (assignment before.length 0 entry.1)) = some given := by
      simp [assignment, tight, assignmentOf?, Condition.argument?, ← hentry.1]
    -- to the assignments that follow, the value of this one is bound already
    have hrest := ih (before ++ [given.2])
    rw [List.length_append, List.length_singleton, List.append_assoc, List.singleton_append] at hrest
    rw [List.mapIdx_cons, List.map_cons, List.map_cons, List.mapM_cons, hfirst]
    simp only [assignment_succ, hrest]
    rfl

/-- **What is written of a record is read back**, whatever was bound before. -/
theorem decode?_assignments {assigned : List (String × Value)} (h : List.Forall₂ (Assigns model) record assigned)
    (before : List Value) :
    decode? (assignments before.length record).render (before ++ assigned.map (·.2)) = some assigned := by
  have hlex := lex_render (says_assignments before.length record).legible
  have htight : tight (assignments before.length record) = [.mark .comma].intercalate
      ((record.mapIdx fun i entry => assignment before.length i entry.1).map tight) :=
    tight_joined (show tight [.mark .comma, .blank] = [.mark .comma] from rfl) _
  rw [← tight, htight] at hlex
  have hread := mapM_assignmentOf? h before
  cases h with
  | nil => simp [decode?, hlex]
  | @cons entry given record assigned _ _ =>
    have hcomma : ∀ part ∈ (((entry :: record).mapIdx fun i entry => assignment before.length i entry.1).map tight),
        .mark .comma ∉ part := by
      intro part hpart
      obtain ⟨sql, hsql, rfl⟩ := List.mem_map.mp hpart
      obtain ⟨i, hi, rfl⟩ := List.mem_mapIdx.mp hsql
      simp [assignment, tight]
    have hsplit := List.splitOn_intercalate (Token.mark .comma) hcomma (by simp)
    rw [decode?, hlex, Option.bind_eq_bind, Option.bind_some]
    split
    case h_1 hnothing =>
      -- an assignment is not nothing
      rw [hnothing] at hsplit
      simp [assignment, tight] at hsplit
    case h_2 => rw [hsplit, hread]

/-- **A record of which every value has a form is compiled**, and read back with every value in its place. -/
theorem compile_of_forms (hforms : ∀ entry ∈ record, ∃ w, model.Binds entry.1 entry.2 w) (arguments : List Value) :
    ∃ sql assigned,
      (compile model record).result arguments = (.ok sql, arguments ++ assigned.map (·.2)) ∧
      decode? sql.render (arguments ++ assigned.map (·.2)) = some assigned ∧
      List.Forall₂ (Assigns model) record assigned := by
  obtain ⟨assigned, hcells, hall⟩ := cells_eq_map_ok hforms
  refine ⟨assignments arguments.length record, assigned, ?_, decode?_assignments hall arguments, hall⟩
  rw [result_compile, build, hcells, Bound.ofCells, bindUntil_map_ok]

/-- A value without a form is misused. -/
theorem compile_without_form {entry : Value × Value} (hentry : entry ∈ record)
    (hnone : ∀ w, ¬ model.Binds entry.1 entry.2 w) (arguments : List Value) :
    ∃ how after, (compile model record).result arguments = (.error (.misused how), after) := by
  have hcells : ∀ cell ∈ cells model record, Misuses cell := by
    intro cell hcell
    obtain ⟨other, -, rfl⟩ := List.mem_map.mp hcell
    exact model.misuses_serialize other.1 other.2
  have hunbound : ∀ w, model.serialize entry.1 entry.2 ≠ .ok w := by
    intro w hw
    exact hnone w (Model.serialize_eq_ok_iff.mp hw)
  obtain ⟨how, hhow⟩ := Bound.misused_of_mem hcells (List.mem_map_of_mem hentry) hunbound
    (assignments arguments.length record)
  rw [result_compile, build, hhow]
  exact ⟨how, _, rfl⟩

end Update

/-! ## No value lands elsewhere -/

/-- **Every value is where it belongs.** Columns, values and arguments, read together, give back what was given: row by
row in the order of the rows, column by column in the order of the first row, each value once and in its form; and
what had been bound before is still there, in front. A value without a form makes the whole fail. Rows that are
refused have bound nothing. -/
theorem written_in_place (model : Model) (arguments : List Value) :
    (∀ (columns : List String) (first : Record) (later : List Record), Insert.Share columns first later →
      ((∀ row ∈ first :: later, ∀ entry ∈ row, ∃ w, model.Binds entry.1 entry.2 w) → ∃ parts values,
        (Insert.compile model (.list ((first :: later).map .map))).result arguments =
          (.ok parts, arguments ++ values.flatten) ∧
        values.flatten.length = (first :: later).length * columns.length ∧
        Insert.decode? parts.columns.render parts.values.render (arguments ++ values.flatten) = some (columns, values) ∧
        List.Forall₂ (fun row ws => List.Forall₂ (Insert.Shows model row) columns ws) (first :: later) values) ∧
      ∀ row ∈ first :: later, ∀ entry ∈ row, (∀ w, ¬ model.Binds entry.1 entry.2 w) → ∃ how after,
        (Insert.compile model (.list ((first :: later).map .map))).result arguments = (.error (.misused how), after)) ∧
    (∀ record : Record,
      ((∀ entry ∈ record, ∃ w, model.Binds entry.1 entry.2 w) → ∃ sql assigned,
        (Update.compile model record).result arguments = (.ok sql, arguments ++ assigned.map (·.2)) ∧
        Update.decode? sql.render (arguments ++ assigned.map (·.2)) = some assigned ∧
        List.Forall₂ (Update.Assigns model) record assigned) ∧
      ∀ entry ∈ record, (∀ w, ¬ model.Binds entry.1 entry.2 w) → ∃ how after,
        (Update.compile model record).result arguments = (.error (.misused how), after)) ∧
    ∀ rows why after, (Insert.compile model rows).result arguments = (.error (.refused why), after) →
      after = arguments := by
  refine ⟨?_, ?_, ?_⟩
  · intro columns first later hshare
    refine ⟨fun hforms => Insert.compile_of_forms hshare hforms arguments, ?_⟩
    intro row hrow entry hentry hnone
    exact Insert.compile_without_form hshare hrow hentry hnone arguments
  · intro record
    refine ⟨fun hforms => Update.compile_of_forms hforms arguments, ?_⟩
    intro entry hentry hnone
    exact Update.compile_without_form hentry hnone arguments
  · intro rows why after h
    rw [Insert.result_compile] at h
    obtain ⟨houtcome, rfl⟩ := Prod.mk.inj h
    rw [Insert.arguments_of_refused houtcome, List.append_nil]

def settings : Model where
  name := "Settings"
  attributes := [("flags", ⟨.json, true, none, false, false, false, none⟩)]

/-- Two rows with three columns, in different orders. -/
def firstSetting : Record :=
  [(.text "owner", .int 1), (.text "flags", .map [(.text "beta", .bool true)]), (.text "changed", .null)]

def secondSetting : Record := [(.text "changed", .pending), (.text "owner", .int 2), (.text "flags", .null)]

theorem share_settings : Insert.Share ["owner", "flags", "changed"] firstSetting [secondSetting] := by
  refine ⟨by simp, by simp, rfl, ?_⟩
  intro row hrow
  obtain rfl := List.mem_singleton.mp hrow
  have hmoved : ([Value.text "changed"] ++ [Value.text "owner", Value.text "flags"]).Perm
      ([Value.text "owner", Value.text "flags"] ++ [Value.text "changed"]) := List.perm_append_comm
  exact hmoved

theorem written_in_place_of_permuted :
    Insert.Share ["owner", "flags", "changed"] firstSetting [secondSetting] ∧
    (∀ row ∈ [firstSetting, secondSetting], ∀ entry ∈ row, ∃ w, settings.Binds entry.1 entry.2 w) ∧
    ∃ parts values,
      (Insert.compile settings (.list [.map firstSetting, .map secondSetting])).result [.text "before", .int 0] =
        (.ok parts, [.text "before", .int 0] ++ values.flatten) ∧
      values.flatten = [.int 1, .text "\x7b\"beta\": true\x7d", .null, .int 2, .null, .pending] ∧
      Insert.decode? parts.columns.render parts.values.render ([.text "before", .int 0] ++ values.flatten) =
        some (["owner", "flags", "changed"], values) := by
  have hforms : ∀ row ∈ [firstSetting, secondSetting], ∀ entry ∈ row, ∃ w, settings.Binds entry.1 entry.2 w := by
    intro row hrow entry hentry
    have hserialized : ∃ w, settings.serialize entry.1 entry.2 = .ok w := by
      simp only [List.mem_cons, List.not_mem_nil, or_false] at hrow
      rcases hrow with rfl | rfl
      · simp only [firstSetting, List.mem_cons, List.not_mem_nil, or_false] at hentry
        rcases hentry with rfl | rfl | rfl <;> exact ⟨_, rfl⟩
      · simp only [secondSetting, List.mem_cons, List.not_mem_nil, or_false] at hentry
        rcases hentry with rfl | rfl | rfl <;> exact ⟨_, rfl⟩
    obtain ⟨w, hw⟩ := hserialized
    exact ⟨w, Model.serialize_eq_ok_iff.mp hw⟩
  obtain ⟨parts, values, hcompiled, -, hread, -⟩ :=
    ((written_in_place settings [.text "before", .int 0]).1 _ _ _ share_settings).1 hforms
  refine ⟨share_settings, hforms, parts, values, hcompiled, ?_, hread⟩
  have hbound : ((Insert.compile settings (.list [.map firstSetting, .map secondSetting])).result
      [.text "before", .int 0]).2 = [.text "before", .int 0] ++
        [.int 1, .text "\x7b\"beta\": true\x7d", .null, .int 2, .null, .pending] := rfl
  exact List.append_cancel_left ((congrArg Prod.snd hcompiled).symm.trans hbound)

end ModelStore

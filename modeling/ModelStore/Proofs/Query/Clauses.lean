import ModelStore.Proofs.Sql.Outline
import ModelStore.Query.Operation

/-!
# What the parts of a statement say

One law for each function that writes a part of a statement: which names it writes, how many arguments it
refers to, and what its outline is. The outlines are written down here as functions of what a part is made
of: how many columns, how many rows, which tests. **No outline takes a name or a value**, and that is all
there is to say about what a name or a value can do to a statement.
-/

namespace ModelStore

open Sql

/-! ## Tables -/

/-- The names that a table is written with; an empty schema is none. -/
def tableNames (table schema : Value) : List String :=
  if schema.holds then [schema.plain, table.plain] else [table.plain]

def tableOutline (qualified : Bool) : Sql :=
  if qualified then [.name "", .mark .point, .name ""] else [.name ""]

theorem says_tableName (table schema : Value) (bound : Nat) :
    Says (tableName table schema) (tableNames table schema) bound 0 (tableOutline schema.holds) := by
  unfold tableName tableNames tableOutline
  split
  · have hpoint := (says_name schema.plain bound).glue (says_name table.plain bound)
      (show (Token.mark .point).isLoose = true from rfl)
    simpa [Token.outlined?] using hpoint
  · exact says_name table.plain bound

/-! ## Conditions -/

/-- What a test is, whatever it tests for. -/
inductive Test.Variant
  | compared (m : Mark)
  | among
  | notAmong
  | isNull
  | isNotNull
  deriving DecidableEq, Repr

def Test.variant : Test → Test.Variant
  | equals _ => .compared .equal
  | notEquals _ => .compared .notEqual
  | compares comparison _ => .compared comparison.mark
  | among _ => .among
  | notAmong _ => .notAmong
  | isNull => .isNull
  | isNotNull => .isNotNull

def Test.Variant.outline : Test.Variant → Sql
  | compared m => [.name "", .mark m, .placeholder 0]
  | among => [.name "", .mark .equal, .keyword .ANY] ++ parenthesized [.placeholder 0]
  | notAmong =>
    .keyword .NOT
      :: parenthesized ([.name "", .mark .equal, .keyword .ANY] ++ parenthesized [.placeholder 0])
  | isNull => [.name "", .keyword .IS, .keyword .NULL]
  | isNotNull => [.name "", .keyword .IS, .keyword .NOT, .keyword .NULL]

theorem says_condition (bound : Nat) (c : Condition) :
    Says (c.sql bound) [c.column] bound c.operands.length c.test.variant.outline := by
  obtain ⟨column, test⟩ := c
  have hcompared : ∀ m : Mark, Says
      [.name column, .blank, .mark m, .blank, .placeholder (bound + 1)] [column] bound 1
      (Test.Variant.compared m).outline :=
    fun m => ((says_name column bound).then (says_mark m bound)).then (says_placeholder bound)
  have hmember : Says
      ([.name column, .blank, .mark .equal, .blank, .keyword .ANY]
        ++ parenthesized [.placeholder (bound + 1)]) [column] bound 1 Test.Variant.among.outline :=
    (((says_name column bound).then (says_mark .equal bound)).then (says_keyword .ANY bound)).enclose
      (says_placeholder bound)
  cases test with
  | equals _ => exact hcompared .equal
  | notEquals _ => exact hcompared .notEqual
  | compares comparison _ => exact hcompared comparison.mark
  | among _ => exact hmember
  | notAmong _ =>
    have hbound : Says _ _ (bound + 0) _ _ := hmember.parenthesized
    exact (says_keyword .NOT bound).then hbound
  | isNull => exact (says_name column bound).then (says_keywords [.IS, .NULL] bound)
  | isNotNull => exact (says_name column bound).then (says_keywords [.IS, .NOT, .NULL] bound)

theorem sayAll_conditions (bound : Nat) (conditions : List Condition) :
    SayAll (Criteria.parts bound conditions) (conditions.map Condition.column) bound
      (Criteria.operands conditions).length (conditions.map fun c => c.test.variant.outline) := by
  induction conditions generalizing bound with
  | nil => exact .nil bound
  | cons c rest ih =>
    have hcons := SayAll.cons (says_condition bound c) (ih (bound + c.operands.length))
    simpa [Criteria.parts, Criteria.operands] using hcons

def clauseOutline (tests : List Test.Variant) : Sql :=
  if tests.isEmpty then []
  else .keyword .WHERE :: joined [.keyword .AND] (tests.map Test.Variant.outline)

theorem says_clause (bound : Nat) (conditions : List Condition) :
    Says (Criteria.clause bound conditions) (conditions.map Condition.column) bound
      (Criteria.operands conditions).length (clauseOutline (conditions.map fun c => c.test.variant)) := by
  cases conditions with
  | nil => exact says_nil bound
  | cons c rest =>
    have hjoined := (sayAll_conditions bound (c :: rest)).joined separates_and
    have hwhere := (says_keyword .WHERE bound).then (by simpa using hjoined)
    simpa [Criteria.clause, clauseOutline, Function.comp_def] using hwhere

/-- The clause for one row: the outline of the key's selection in place of a key. -/
def singleOutline (qualified : Bool) (tests : List Test.Variant) : Sql :=
  [.keyword .WHERE, .name "", .mark .equal]
    ++ parenthesized ([.keyword .SELECT, .name "", .keyword .FROM] ++ tableOutline qualified
      ++ clauseOutline tests)

theorem says_singleClause {table : Sql} {said : List String} {qualified : Bool} (bound : Nat)
    (htable : Says table said bound 0 (tableOutline qualified)) (conditions : List Condition) :
    Says (Criteria.singleClause table bound conditions)
      (primaryKey :: primaryKey :: said ++ conditions.map Condition.column) bound
      (Criteria.operands conditions).length
      (singleOutline qualified (conditions.map fun c => c.test.variant)) := by
  have hkey := says_name primaryKey bound
  have hselect := (((says_keyword .SELECT bound).then hkey).then (says_keyword .FROM bound)).then htable
  have hselected := hselect.spaced (by simp) (says_clause bound conditions)
  have hwhere := (((says_keyword .WHERE bound).then hkey).then (says_mark .equal bound)).then
    hselected.parenthesized
  simpa [Criteria.singleClause, Criteria.keyClause, singleOutline] using hwhere

/-! ## Columns and values -/

def commas (count : Nat) (part : Sql) : Sql := joined [.mark .comma] (List.replicate count part)

theorem sayAll_names (columns : List Value) (bound : Nat) :
    SayAll (columns.map fun column => [.name column.plain]) (columns.map Value.plain) bound 0
      (List.replicate columns.length [.name ""]) := by
  induction columns with
  | nil => exact .nil bound
  | cons column rest ih => exact .cons (says_name column.plain bound) ih

theorem says_listed (columns : List Value) (bound : Nat) :
    Says (listed (columns.map fun column => [.name column.plain])) (columns.map Value.plain) bound 0
      (commas columns.length [.name ""]) :=
  (sayAll_names columns bound).joined separates_comma

theorem says_columns (columns : List Value) (bound : Nat) :
    Says (Insert.columnsSql columns) (columns.map Value.plain) bound 0
      (parenthesized (commas columns.length [.name ""])) :=
  (says_listed columns bound).parenthesized

theorem sayAll_placeholders (bound count : Nat) :
    SayAll (placeholders bound count) [] bound count (List.replicate count [.placeholder 0]) := by
  induction count generalizing bound with
  | zero => exact .nil bound
  | succ count ih =>
    have hcons := SayAll.cons (says_placeholder bound) (ih (bound + 1))
    rw [placeholders_succ, List.replicate_succ, Nat.add_comm count 1]
    exact hcons

theorem says_row (bound width : Nat) :
    Says (Insert.rowSql bound width) [] bound width (parenthesized (commas width [.placeholder 0])) :=
  ((sayAll_placeholders bound width).joined separates_comma).parenthesized

def valuesOutline (width count : Nat) : Sql := commas count (parenthesized (commas width [.placeholder 0]))

theorem says_values (bound width count : Nat) :
    Says (Insert.valuesSql bound width count) [] bound (width * count) (valuesOutline width count) := by
  refine SayAll.joined separates_comma ?_
  induction count generalizing bound with
  | zero => exact .nil bound
  | succ count ih =>
    have hcons := SayAll.cons (says_row bound width) (ih (bound + width))
    rw [Insert.map_rowSql_succ, Nat.mul_succ, Nat.add_comm (width * count) width]
    exact hcons

theorem sayAll_assignments (bound : Nat) (record : Record) :
    SayAll (record.mapIdx fun i entry => Update.assignment bound i entry.1)
      (record.map fun entry => entry.1.plain) bound record.length
      (List.replicate record.length [.name "", .mark .equal, .placeholder 0]) := by
  induction record generalizing bound with
  | nil => exact .nil bound
  | cons entry rest ih =>
    have hassignment : Says (Update.assignment bound 0 entry.1) [entry.1.plain] bound 1
        [.name "", .mark .equal, .placeholder 0] :=
      ((says_name entry.1.plain bound).then (says_mark .equal bound)).then (says_placeholder bound)
    rw [List.mapIdx_cons, List.length_cons, List.replicate_succ, Nat.add_comm rest.length 1]
    simp only [Update.assignment_succ]
    exact .cons hassignment (ih (bound + 1))

def assignmentsOutline (count : Nat) : Sql := commas count [.name "", .mark .equal, .placeholder 0]

theorem says_assignments (bound : Nat) (record : Record) :
    Says (Update.assignments bound record) (record.map fun entry => entry.1.plain) bound record.length
      (assignmentsOutline record.length) :=
  (sayAll_assignments bound record).joined separates_comma

/-! ## What is selected -/

/-- The columns selected by name; none if all of them are. -/
def selectedColumns (select : Value) : Except Fault (Option (List Value)) :=
  if !select.holds then .ok none else select.items.map some

def selectionOutline : Option Nat → Sql
  | none => [.mark .star]
  | some count => commas count [.name ""]

theorem says_selection {select : Value} {columns : Sql} (bound : Nat)
    (h : Model.selection select = .ok columns) :
    ∃ selected, selectedColumns select = .ok selected ∧
      Says columns ((selected.getD []).map Value.plain) bound 0
        (selectionOutline (selected.map List.length)) := by
  unfold Model.selection at h
  unfold selectedColumns
  split at h
  · next hnothing =>
    obtain rfl := Except.ok.inj h
    exact ⟨none, by simp [hnothing], says_mark .star bound⟩
  · next hsomething =>
    cases hitems : select.items with
    | error fault => simp [hitems, bind, Except.bind] at h
    | ok items =>
      simp only [hitems, bind, Except.bind, Except.ok.injEq] at h
      subst h
      exact ⟨some items, by simp [hsomething, Except.map], says_listed items bound⟩

theorem says_selectFrom {columns table seen seen' : Sql} {said said' : List String} {bound : Nat}
    (hcolumns : Says columns said bound 0 seen) (htable : Says table said' bound 0 seen') :
    Says (Model.selectFrom columns table) (said ++ said') bound 0
      (.keyword .SELECT :: seen ++ .keyword .FROM :: seen') := by
  have hfrom := (((says_keyword .SELECT bound).then hcolumns).then (says_keyword .FROM bound)).then htable
  simpa [Model.selectFrom] using hfrom

/-! ## Order and limit -/

def orderOutline (direction : Option Direction) : Sql :=
  [.keyword .ORDER, .keyword .BY, .name ""]
    ++ (match direction with
      | none => []
      | some direction => [.keyword direction.keyword])

theorem Sql.Says.ordered {sql seen : Sql} {said : List String} {bound count : Nat}
    (h : Says sql said bound count seen) (order : Order) :
    Says (sql ++ order.sql) (said ++ [order.column]) bound count
      (seen ++ orderOutline order.direction) := by
  have hby := (h.then (says_keywords [.ORDER, .BY] _)).then (says_name order.column _)
  obtain ⟨column, direction⟩ := order
  cases direction with
  | none => simpa [Order.sql, orderOutline, keywords] using hby
  | some direction =>
    have hdirection := hby.then (says_keyword direction.keyword _)
    simpa [Order.sql, orderOutline, keywords] using hdirection

theorem Sql.Says.limited {sql seen : Sql} {said : List String} {bound count : Nat}
    (h : Says sql said bound count seen) (limit : Nat) :
    Says (sql ++ ModelStore.limitSql limit) said bound count (seen ++ [.keyword .LIMIT, .number limit]) := by
  have hlimit := (h.then (says_keyword .LIMIT _)).then (says_number limit _)
  simpa [ModelStore.limitSql] using hlimit

end ModelStore

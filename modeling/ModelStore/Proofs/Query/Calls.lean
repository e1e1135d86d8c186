import ModelStore.Proofs.Query.Modifying
import ModelStore.Proofs.Query.Reading
import ModelStore.Proofs.Write.Counting

/-!
# What a caller can do to the text of a statement

What a caller gives are names and values of all kinds; what storage gets is one text and the arguments.
**The text of a call is read back as tokens of which**

* *the placeholders are one for each argument, in order,*
* *the names are those of the call, in order,*
* *everything else is the outline of the call's shape*

(`text_reads`). So no name and no value can be anything but a name or an argument of the statement, whatever
it holds. A schema whose name is empty counts as none (`empty_schema_is_not_named`).

The proof goes by the operations: each writes what its reading says (`writes_of_query`), and a modifier sets
what it says in the query and in the reading (`Writes.modified`).
-/

namespace ModelStore

open Sql
open Sorting (exists_of_bind_eq_ok)

namespace Operation

/-! ## What each operation writes -/

/-- A query is what a reading says: both its text and the one that is read in its place, and what is set. -/
structure Writes (r : Reading) (table : List String) (schema : Value) (q : Query) : Prop where
  written : ∀ sql, q.sql = some sql →
    Says sql (r.bodyNames table) 0 q.arguments.length (r.shape schema).body ∧
      q.returning = !(r.shape schema).reads
  looked : ∀ sql, q.sql = none → q.lookup = some sql →
    Says sql (r.bodyNames table) 0 q.arguments.length (r.shape schema).body ∧
      (r.shape schema).reads = true
  fetching : q.fetching = r.fetching
  order : q.order = r.order
  limit : q.limit = r.limit

variable {model : Model} {schema : Value} {q : Query}

theorem query_ok {sql : Option Sql} {arguments : List Value} {mode fetchMode : Mode}
    (h : model.query schema sql arguments mode fetchMode = .ok q) :
    ∃ name, q = { Query.plain (some model) sql arguments mode fetchMode with schema := name } := by
  unfold Model.query at h
  split at h
  · next name _ => exact ⟨name, (Except.ok.inj h).symm⟩
  · exact absurd h (by simp)

theorem says_table (model : Model) (schema : Value) (bound : Nat) :
    Says (model.tableSql schema) (tableNames (.text model.table) schema) bound 0
      (tableOutline schema.holds) :=
  says_tableName (.text model.table) schema bound

theorem says_insertInto (model : Model) (schema : Value) :
    Says (model.insertInto schema) (tableNames (.text model.table) schema) 0 0
      ([.keyword .INSERT, .keyword .INTO] ++ tableOutline schema.holds) := by
  have hinto := (says_keywords [.INSERT, .INTO] 0).then (says_table model schema 0)
  simpa [Model.insertInto] using hinto

/-- An insertion of columns and values, whatever they are. -/
theorem says_insertSql {parts : Insert.Parts} {said : List String} {count : Nat} {columns values : Sql}
    (hcolumns : Says parts.columns said 0 0 columns) (hvalues : Says parts.values [] 0 count values) :
    Says (model.insertSql schema parts) (tableNames (.text model.table) schema ++ said) 0 count
      ([.keyword .INSERT, .keyword .INTO] ++ tableOutline schema.holds ++ columns
        ++ .keyword .VALUES :: values) := by
  have hall := (((says_insertInto model schema).then hcolumns).then (says_keyword .VALUES 0)).then
    (by simpa using hvalues)
  simpa [Model.insertSql] using hall

/-- A query with a text. -/
theorem writes_of_sql {r : Reading} {table : List String} {sql : Sql} (hsql : q.sql = some sql)
    (hsaid : Says sql (r.bodyNames table) 0 q.arguments.length (r.shape schema).body)
    (hreturning : q.returning = !(r.shape schema).reads) (hfetching : q.fetching = r.fetching)
    (horder : q.order = r.order) (hlimit : q.limit = r.limit) : Writes r table schema q := by
  refine ⟨?_, ?_, hfetching, horder, hlimit⟩
  · intro sql' hsql'
    obtain rfl : sql = sql' := Option.some.inj (hsql.symm.trans hsql')
    exact ⟨hsaid, hreturning⟩
  · intro sql' hnone _
    exact absurd (hsql.symm.trans hnone) (by simp)

theorem writes_create {given : Value} (h : (create given).query model schema = .ok q) :
    ∃ r, (create given).reading model = .ok r ∧
      Writes r (tableNames (.text model.table) schema) schema q := by
  obtain ⟨entries, hentries, h⟩ := exists_of_bind_eq_ok h
  obtain ⟨parts, hparts, h⟩ := exists_of_bind_eq_ok h
  obtain ⟨name, rfl⟩ := query_ok h
  refine ⟨_, by rw [reading, hentries]; rfl, ?_⟩
  generalize model.fill .creating entries = record at *
  obtain ⟨hcount, hbuilt⟩ := @Insert.build_ok model record [] parts hparts
  refine writes_of_sql rfl ?_ rfl rfl rfl rfl
  have hlength : (Insert.build model 0 (.list [.map record])).arguments.length = record.length := by
    simpa using hcount
  simp only [Query.plain, hlength]
  cases record with
  | nil =>
    obtain rfl : parts = ⟨[], []⟩ := hbuilt
    have hdefault := (says_insertInto model schema).then (says_keywords [.DEFAULT, .VALUES] 0)
    simpa [Reading.bodyNames, Reading.shape, Shape.body, Shape.table] using hdefault
  | cons entry record =>
    rw [if_neg (by simp)] at hbuilt
    have hcolumns := says_columns ((entry :: record).map (·.1)) 0
    have hvalues := says_values 0 ((entry :: record).map (·.1)).length 1
    have hinsert := @says_insertSql model schema parts _ _ _ _ (by rw [hbuilt]; exact hcolumns)
      (by rw [hbuilt]; exact hvalues)
    have hsome : parts.columns.isEmpty = false := by rw [hbuilt]; rfl
    simp only [hsome]
    simpa [Reading.bodyNames, Reading.shape, Shape.body, Shape.table] using hinsert

theorem writes_createEach {given : Value} (h : (createEach given).query model schema = .ok q) :
    ∃ r, (createEach given).reading model = .ok r ∧
      Writes r (tableNames (.text model.table) schema) schema q := by
  obtain ⟨items, hitems, h⟩ := exists_of_bind_eq_ok h
  obtain ⟨rows, hrows, h⟩ := exists_of_bind_eq_ok h
  refine ⟨{ kind := .createEach, written := (rows.head?.getD []).map (·.1), rows := rows.length }, ?_, ?_⟩
  · simp only [bind, Except.bind] at hrows
    simp only [reading, hitems, bind, Except.bind, hrows]
  cases rows with
  | nil =>
    -- there is nothing to write, and nothing to read in its place
    obtain ⟨name, rfl⟩ := query_ok h
    exact ⟨fun _ hsql => absurd hsql (by simp [Query.plain]),
      fun _ _ hlookup => absurd hlookup (by simp [Query.plain]), rfl, rfl, rfl⟩
  | cons first later =>
    obtain ⟨parts, hparts, h⟩ := exists_of_bind_eq_ok h
    obtain ⟨name, rfl⟩ := query_ok h
    obtain ⟨hcount, hbuilt⟩ := Insert.build_ok hparts
    refine writes_of_sql rfl ?_ rfl rfl rfl rfl
    simp only [Query.plain, hcount]
    cases first with
    | nil =>
      obtain rfl : parts = ⟨[], []⟩ := hbuilt
      have hinsert := @says_insertSql model schema ⟨[], []⟩ _ _ _ _ (says_nil 0) (says_nil 0)
      simpa [Reading.bodyNames, Reading.shape, Shape.body, Shape.table] using hinsert
    | cons entry first =>
      rw [if_neg (by simp)] at hbuilt
      have hcolumns := says_columns ((entry :: first).map (·.1)) 0
      have hvalues := says_values 0 ((entry :: first).map (·.1)).length (later.length + 1)
      have hinsert := @says_insertSql model schema parts _ _ _ _ (by rw [hbuilt]; exact hcolumns)
        (by rw [hbuilt]; exact hvalues)
      simpa [Reading.bodyNames, Reading.shape, Shape.body, Shape.table] using hinsert

theorem says_whereClause (model : Model) (schema : Value) (one : Bool) (bound : Nat) (r : Reading) :
    Says (model.whereClause schema one bound r.conditions)
      (r.conditionNames one (tableNames (.text model.table) schema)) bound
      (Criteria.operands r.conditions).length
      (whereOutline one schema.holds (r.conditions.map fun c => c.test.variant)) := by
  cases one with
  | false => exact says_clause bound r.conditions
  | true => exact says_singleClause bound (says_table model schema bound) r.conditions

theorem writes_destroying {criteria : Value} {one : Bool}
    (h : model.destroying one criteria schema = .ok q) :
    ∃ conditions, Criteria.parse criteria = .ok conditions ∧
      Writes { kind := if one then .destroyOne else .destroy, conditions := conditions }
        (tableNames (.text model.table) schema) schema q := by
  obtain ⟨conditions, hconditions, h⟩ := exists_of_bind_eq_ok h
  obtain ⟨q', hq, h⟩ := exists_of_bind_eq_ok h
  obtain rfl := Except.ok.inj h
  obtain ⟨name, rfl⟩ := query_ok hq
  refine ⟨conditions, hconditions, writes_of_sql rfl ?_ ?_ rfl rfl rfl⟩
  · have hclause := says_whereClause model schema one 0
      { kind := if one then .destroyOne else .destroy, conditions := conditions }
    have hdelete := (says_keywords [.DELETE, .FROM] 0).then (says_table model schema 0)
    have hall := hdelete.spaced (by simp) (by simpa using hclause)
    cases one with
    | false =>
      simpa [Reading.bodyNames, Reading.shape, Shape.body, Shape.table, Shape.conditions, Query.plain]
        using hall
    | true =>
      simpa [Reading.bodyNames, Reading.shape, Shape.body, Shape.table, Shape.conditions, Query.plain]
        using hall
  · cases one <;> rfl

/-- What both ways of finding have in common: some columns, selected from the table, under a clause. -/
theorem says_finding {select : Value} {columns clause : Sql} (hcolumns : Model.selection select = .ok columns)
    {said : List String} {count : Nat} {seen : Sql} (hclause : Says clause said 0 count seen) :
    ∃ selected, selectedColumns select = .ok selected ∧
      Says (Sql.spaced [Model.selectFrom columns (model.tableSql schema), clause])
        ((selected.getD []).map Value.plain ++ tableNames (.text model.table) schema ++ said) 0 count
        (.keyword .SELECT :: selectionOutline (selected.map List.length)
          ++ .keyword .FROM :: tableOutline schema.holds ++ seen) := by
  obtain ⟨selected, hselected, hsaid⟩ := says_selection 0 hcolumns
  refine ⟨selected, hselected, ?_⟩
  have hall := (says_selectFrom hsaid (says_table model schema 0)).spaced (by simp [Model.selectFrom])
    (by simpa using hclause)
  simpa using hall

theorem findSorted_eq (model : Model) (criteria select schema sort limit : Value) :
    model.findSorted criteria select schema sort limit = (do
      let q ← model.find criteria select schema
      let order ← optionally Order.parse sort
      let limit ← optionally parseLimit limit
      .ok { q with order := order, limit := limit }) := by
  unfold Model.findSorted optionally
  congr 1
  funext q
  split <;> split <;> rfl

theorem writes_find {criteria select sort limit : Value}
    (h : (find criteria select sort limit).query model schema = .ok q) :
    ∃ r, (find criteria select sort limit).reading model = .ok r ∧
      Writes r (tableNames (.text model.table) schema) schema q := by
  rw [query, findSorted_eq] at h
  obtain ⟨found, hfound, h⟩ := exists_of_bind_eq_ok h
  obtain ⟨order, horder, h⟩ := exists_of_bind_eq_ok h
  obtain ⟨most, hmost, h⟩ := exists_of_bind_eq_ok h
  obtain rfl := Except.ok.inj h
  obtain ⟨columns, hcolumns, hfound⟩ := exists_of_bind_eq_ok hfound
  obtain ⟨conditions, hconditions, hfound⟩ := exists_of_bind_eq_ok hfound
  obtain ⟨q', hq, hfound⟩ := exists_of_bind_eq_ok hfound
  obtain rfl := Except.ok.inj hfound
  obtain ⟨name, rfl⟩ := query_ok hq
  obtain ⟨selected, hselected, hall⟩ :=
    @says_finding model schema select columns _ hcolumns _ _ _ (says_clause 0 conditions)
  refine ⟨{ kind := .find, selected := selected, conditions := conditions, order := order, limit := most },
    ?_, writes_of_sql rfl ?_ rfl rfl rfl rfl⟩
  · simp only [reading, hselected, hconditions, horder, hmost]
    rfl
  · simpa [Reading.bodyNames, Reading.conditionNames, Reading.shape, Shape.body, Shape.table, Shape.conditions,
      whereOutline, Query.plain] using hall

theorem writes_findOne {criteria select : Value}
    (h : (findOne criteria select).query model schema = .ok q) :
    ∃ r, (findOne criteria select).reading model = .ok r ∧
      Writes r (tableNames (.text model.table) schema) schema q := by
  obtain ⟨columns, hcolumns, h⟩ := exists_of_bind_eq_ok h
  obtain ⟨conditions, hconditions, h⟩ := exists_of_bind_eq_ok h
  obtain ⟨q', hq, h⟩ := exists_of_bind_eq_ok h
  obtain rfl := Except.ok.inj h
  obtain ⟨name, rfl⟩ := query_ok hq
  obtain ⟨selected, hselected, hall⟩ := @says_finding model schema select columns _ hcolumns _ _ _
    (says_singleClause 0 (says_table model schema 0) conditions)
  refine ⟨{ kind := .findOne, selected := selected, conditions := conditions }, ?_,
    writes_of_sql rfl ?_ rfl rfl rfl rfl⟩
  · rw [reading, hselected, hconditions]
    rfl
  · simpa [Reading.bodyNames, Reading.conditionNames, Reading.shape, Shape.body, Shape.table, Shape.conditions,
      whereOutline, Query.plain] using hall

theorem writes_updating {criteria given : Value} {one : Bool}
    (h : model.updating one criteria given schema = .ok q) :
    ∃ entries conditions, given.entries = .ok entries ∧ Criteria.parse criteria = .ok conditions ∧
      Writes
        { kind := if one then .updateOne else .update, written := (model.fill .changing entries).map (·.1),
          conditions := conditions, fetching := one }
        (tableNames (.text model.table) schema) schema q := by
  obtain ⟨entries, hentries, h⟩ := exists_of_bind_eq_ok h
  obtain ⟨assignments, hassignments, h⟩ := exists_of_bind_eq_ok h
  obtain ⟨conditions, hconditions, h⟩ := exists_of_bind_eq_ok h
  obtain ⟨q', hq, h⟩ := exists_of_bind_eq_ok h
  obtain rfl := Except.ok.inj h
  obtain ⟨name, rfl⟩ := query_ok hq
  refine ⟨entries, conditions, hentries, hconditions, ?_⟩
  generalize model.fill .changing entries = record at *
  obtain ⟨hbuilt, hcount⟩ := Update.build_ok hassignments
  -- the clause comes after the values that are set, of which there may be none
  have hclause := says_whereClause model schema one (Update.build model 0 record).arguments.length
    { kind := if one then .updateOne else .update, written := record.map (·.1), conditions := conditions,
      fetching := one }
  rw [hcount] at hclause
  refine ⟨?_, ?_, rfl, rfl, rfl⟩
  · intro sql hsql
    cases record with
    | nil => exact absurd hsql (by simp [Query.plain])
    | cons entry record =>
      obtain rfl := Option.some.inj hsql
      refine ⟨?_, by cases one <;> rfl⟩
      have hassigned := says_assignments 0 (entry :: record)
      rw [← hbuilt] at hassigned
      have hset := (((says_keyword .UPDATE 0).then (says_table model schema 0)).then
        (says_keyword .SET 0)).then (by simpa using hassigned)
      have hall := hset.spaced (by simp) (by simpa using hclause)
      simp only [Query.plain, List.length_append, hcount]
      cases one with
      | false =>
        simpa [Reading.bodyNames, Reading.shape, Shape.body, Shape.updating, Shape.table, Shape.conditions,
          Function.comp_def] using hall
      | true =>
        simpa [Reading.bodyNames, Reading.shape, Shape.body, Shape.updating, Shape.table, Shape.conditions,
          Function.comp_def] using hall
  · intro sql hnone hlookup
    cases record with
    | cons entry record => exact absurd hnone (by simp [Query.plain])
    | nil =>
      obtain rfl := Option.some.inj hlookup
      refine ⟨?_, by cases one <;> rfl⟩
      have hselect := says_selectFrom (says_mark .star 0) (says_table model schema 0)
      have hall := hselect.spaced (by simp [Model.selectFrom]) (by simpa using hclause)
      simp only [Query.plain, List.length_append, hcount]
      cases one with
      | false =>
        simpa [Reading.bodyNames, Reading.shape, Shape.body, Shape.updating, Shape.table, Shape.conditions]
          using hall
      | true =>
        simpa [Reading.bodyNames, Reading.shape, Shape.body, Shape.updating, Shape.table, Shape.conditions]
          using hall

/-- **Each operation writes what it is read as.** -/
theorem writes_of_query {op : Operation} (h : op.query model schema = .ok q) :
    ∃ r, op.reading model = .ok r ∧ Writes r (tableNames (.text model.table) schema) schema q := by
  cases op with
  | create given => exact writes_create h
  | createEach given => exact writes_createEach h
  | find criteria select sort limit => exact writes_find h
  | findOne criteria select => exact writes_findOne h
  | update criteria given =>
    obtain ⟨entries, conditions, hentries, hconditions, hwrites⟩ := writes_updating h
    exact ⟨_, by simp only [reading, hentries, hconditions]; rfl, hwrites⟩
  | updateOne criteria given =>
    obtain ⟨entries, conditions, hentries, hconditions, hwrites⟩ := writes_updating h
    exact ⟨_, by simp only [reading, hentries, hconditions]; rfl, hwrites⟩
  | destroy criteria =>
    obtain ⟨conditions, hconditions, hwrites⟩ := writes_destroying h
    exact ⟨_, by rw [reading, hconditions]; rfl, hwrites⟩
  | destroyOne criteria =>
    obtain ⟨conditions, hconditions, hwrites⟩ := writes_destroying h
    exact ⟨_, by rw [reading, hconditions]; rfl, hwrites⟩

/-! ## Modifiers -/

section

variable {registry : Option Registry} {r : Reading} {table : List String} {q' : Query}

theorem Writes.modified (hwrites : Writes r table schema q) {m : Query.Modifier}
    (h : q.modify registry m = .ok q') :
    ∃ r', r.modified m = .ok r' ∧ Writes r' table schema q' := by
  obtain ⟨_, -, h⟩ := exists_of_bind_eq_ok h
  obtain ⟨hwritten, hlooked, hfetching, horder, hlimit⟩ := hwrites
  cases m with
  | fetch =>
    obtain rfl := Except.ok.inj h
    exact ⟨_, rfl, hwritten, hlooked, rfl, horder, hlimit⟩
  | limit v =>
    obtain ⟨limit, hparsed, h⟩ := exists_of_bind_eq_ok h
    obtain rfl := Except.ok.inj h
    refine ⟨{ r with limit := some limit }, ?_, hwritten, hlooked, hfetching, horder, rfl⟩
    rw [Reading.modified, hparsed]
    rfl
  | sort v =>
    obtain ⟨order, hparsed, h⟩ := exists_of_bind_eq_ok h
    obtain rfl := Except.ok.inj h
    refine ⟨{ r with order := some order }, ?_, hwritten, hlooked, hfetching, rfl, hlimit⟩
    rw [Reading.modified, hparsed]
    rfl
  | populate name =>
    obtain ⟨_, -, h⟩ := exists_of_bind_eq_ok h
    obtain rfl := Except.ok.inj h
    exact ⟨r, rfl, hwritten, hlooked, hfetching, horder, hlimit⟩
  | connection c =>
    obtain rfl := Except.ok.inj h
    exact ⟨r, rfl, hwritten, hlooked, hfetching, horder, hlimit⟩
  | intercept kind offer =>
    obtain ⟨_, -, h⟩ := exists_of_bind_eq_ok h
    obtain rfl := Except.ok.inj h
    exact ⟨r, rfl, hwritten, hlooked, hfetching, horder, hlimit⟩

theorem Writes.modifiedAll {modifiers : List Query.Modifier} (hwrites : Writes r table schema q)
    {place : Nat} (h : (Query.performAll registry place modifiers).run q = (none, q')) :
    ∃ r', r.modifiedAll modifiers = .ok r' ∧ Writes r' table schema q' := by
  induction modifiers generalizing r q place with
  | nil =>
    obtain rfl := (Prod.mk.inj h).2
    exact ⟨r, rfl, hwrites⟩
  | cons m rest ih =>
    rw [Query.performAll_cons] at h
    split at h
    · next hmodified =>
      obtain ⟨next, hnext, hwrites⟩ := hwrites.modified hmodified
      obtain ⟨r', hrest, hwrites⟩ := ih hwrites h
      exact ⟨r', by rw [Reading.modifiedAll, hnext]; exact hrest, hwrites⟩
    · exact absurd (Prod.mk.inj h).1 (by simp)

end

/-! ## The text -/

theorem says_body {r : Reading} {table : List String} {sql : Sql} (hwrites : Writes r table schema q)
    (h : q.body? = some sql) :
    Says sql (r.bodyNames table) 0 q.arguments.length
      ((r.shape schema).body ++ (r.shape schema).returning) := by
  have hfetching : q.fetching = (r.shape schema).fetching := hwrites.fetching
  unfold Query.body? at h
  unfold Shape.returning
  cases hsql : q.sql with
  | some written =>
    obtain ⟨hsaid, hreturning⟩ := hwrites.written written hsql
    rw [hsql, hreturning, hfetching] at h
    obtain rfl := Option.some.inj h
    split
    · have hall := (hsaid.then (says_keyword .RETURNING _)).then (says_mark .star _)
      simpa using hall
    · simpa using hsaid
  | none =>
    rw [hsql] at h
    simp only at h
    split at h
    · exact absurd h (by simp)
    · obtain ⟨hsaid, hreads⟩ := hwrites.looked sql hsql h
      simpa [hreads] using hsaid

theorem says_text {r : Reading} {table : List String} {sql : Sql} (hwrites : Writes r table schema q)
    (h : q.text? = some sql) :
    Says sql (r.names table) 0 q.arguments.length (r.shape schema).outline := by
  obtain ⟨body, hbody, rfl⟩ := Option.map_eq_some_iff.mp h
  have hsaid := says_body hwrites hbody
  have hordered : Says (body ++ q.orderSql) (r.names table) 0 q.arguments.length
      ((r.shape schema).body ++ (r.shape schema).returning ++ (r.shape schema).ordering) := by
    unfold Query.orderSql Reading.names Shape.ordering
    rw [hwrites.order]
    cases horder : r.order with
    | none => simpa [Reading.shape, horder] using hsaid
    | some order => simpa [Reading.shape, horder] using hsaid.ordered order
  unfold Query.limitSql Shape.outline Shape.limiting
  rw [hwrites.limit]
  cases hlimit : r.limit with
  | none => simpa [Reading.shape, hlimit] using hordered
  | some limit => simpa [Reading.shape, hlimit] using hordered.limited limit

/-- **The text of a call, read back**: an argument for each placeholder and the names of the call, in order;
and otherwise nothing but the call's shape. -/
theorem text_reads {registry : Option Registry} {op : Operation} {modifiers : List Query.Modifier}
    {made : Query} {text : String} (hmade : op.query model schema = .ok made)
    (hmodified : (Query.performAll registry 0 modifiers).run made = (none, q)) (htext : q.build.sql = some text) :
    ∃ r tokens, op.readingOf model modifiers = .ok r ∧ lex text = some tokens ∧
      names tokens = r.names (tableNames (.text model.table) schema) ∧
      positions tokens = List.range' 1 q.build.arguments.length ∧
      outline tokens = (r.shape schema).outline := by
  obtain ⟨first, hfirst, hwrites⟩ := writes_of_query hmade
  obtain ⟨r, hmore, hwrites⟩ := hwrites.modifiedAll hmodified
  have hreading : op.readingOf model modifiers = .ok r := by
    rw [readingOf, hfirst]
    exact hmore
  obtain ⟨sql, hsql, rfl⟩ := Option.map_eq_some_iff.mp htext
  obtain ⟨tokens, hlexed⟩ := (says_text hwrites hsql).lexed
  exact ⟨r, tokens, hreading, hlexed⟩

def notes : Model := { name := "Notes", attributes := [] }

/-- A name that would end its quotation and go on as a statement of its own. -/
def hostile : String := "id\" = $7; DROP TABLE \"notes"

def changing : Operation :=
  update (.map [(.text hostile, .list [.int 1])]) (.map [(.text hostile, .text hostile)])

def modifiers : List Query.Modifier := [.fetch, .sort (.text "\"$1\" desc"), .limit (.int 3)]

theorem text_reads_of_hostile :
    ∃ made q text tokens, changing.query notes (.text hostile) = .ok made ∧
      (Query.performAll (some ⟨[]⟩) 0 modifiers).run made = (none, q) ∧ q.build.sql = some text ∧
      lex text = some tokens ∧ names tokens = [hostile, "notes", hostile, hostile, "\"$1\""] ∧
      positions tokens = [1, 2] := by
  obtain ⟨made, hmade⟩ : ∃ made, changing.query notes (.text hostile) = .ok made := ⟨_, rfl⟩
  obtain ⟨q, hmodified, htwo, hwritten⟩ : ∃ q, (Query.performAll (some ⟨[]⟩) 0 modifiers).run made = (none, q) ∧
      q.build.arguments.length = 2 ∧ q.build.sql.isSome := by
    obtain rfl := Except.ok.inj hmade
    exact ⟨_, rfl, rfl, rfl⟩
  obtain ⟨text, htext⟩ := Option.isSome_iff_exists.mp hwritten
  obtain ⟨r, tokens, hreading, hlex, hnames, hpositions, -⟩ := text_reads hmade hmodified htext
  obtain rfl := Except.ok.inj hreading
  rw [htwo] at hpositions
  exact ⟨made, q, text, tokens, hmade, hmodified, htext, hlex, hnames, hpositions⟩

/-- **A schema without a name is none**: it is not written, so an empty name is not like any other. -/
theorem empty_schema_is_not_named :
    ∃ nameless named tokens tokens',
      (find .null .null .null .null).query notes (.text "") = .ok nameless ∧
      (find .null .null .null .null).query notes (.text "s") = .ok named ∧
      nameless.build.sql.bind lex = some tokens ∧ named.build.sql.bind lex = some tokens' ∧
      "" ∉ names tokens ∧ "s" ∈ names tokens' ∧ outline tokens ≠ outline tokens' := by
  obtain ⟨nameless, hnameless⟩ : ∃ q, (find .null .null .null .null).query notes (.text "") = .ok q :=
    ⟨_, rfl⟩
  obtain ⟨named, hnamed⟩ : ∃ q, (find .null .null .null .null).query notes (.text "s") = .ok q := ⟨_, rfl⟩
  obtain ⟨r, hreading, hwrites⟩ := writes_of_query hnameless
  obtain ⟨r', hreading', hwrites'⟩ := writes_of_query hnamed
  obtain rfl := Except.ok.inj hreading
  obtain rfl := Except.ok.inj hreading'
  obtain rfl := Except.ok.inj hnameless
  obtain rfl := Except.ok.inj hnamed
  obtain ⟨tokens, hlex, hnames, -, houtline⟩ := (says_text hwrites rfl).lexed
  obtain ⟨tokens', hlex', hnames', -, houtline'⟩ := (says_text hwrites' rfl).lexed
  refine ⟨_, _, tokens, tokens', rfl, rfl, hlex, hlex', ?_, ?_, ?_⟩
  · rw [hnames]
    decide
  · rw [hnames']
    decide
  · rw [houtline, houtline']
    decide

end Operation

end ModelStore

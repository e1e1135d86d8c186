import ModelStore.Proofs.Query.Calls
import ModelStore.Proofs.Record.Join
import ModelStore.Proofs.Write.Markers

/-!
# What an operation binds

The arguments of a query are what its operation was given: values of columns, filled in and in the form that their
column asks for, and what its conditions are about. If no pending time is inside of a value that the caller gives or
the model declares, none is inside of an argument (`flat_of_query`). And the pending times themselves are where the text
wants them: for a timestamp that is left open in the rows of an insertion, at the places that the text has for its
column (`pending_of_createEach`).
-/

namespace ModelStore

open Sorting (exists_of_bind_eq_ok)

namespace Operation

variable {model : Model} {schema : Value} {q : Query}

/-- No pending time is inside of a value that the caller gives. -/
def Flat : Operation → Prop
  | create given => ∀ entries, given.entries = .ok entries → Record.Flat entries
  | createEach given => ∀ items, given.items = .ok items → ∀ v ∈ items, ∀ entries, v.entries = .ok entries →
    Record.Flat entries
  | find criteria _ _ _ | findOne criteria _ | destroy criteria | destroyOne criteria => Criteria.Flat criteria
  | update criteria given | updateOne criteria given =>
    Criteria.Flat criteria ∧ ∀ entries, given.entries = .ok entries → Record.Flat entries

theorem flat_create {given : Value} (hmodel : model.Flat) (hop : (create given).Flat)
    (h : (create given).query model schema = .ok q) : ∀ v ∈ q.arguments, v.Flat := by
  obtain ⟨entries, hentries, h⟩ := exists_of_bind_eq_ok h
  obtain ⟨parts, -, h⟩ := exists_of_bind_eq_ok h
  obtain ⟨name, rfl⟩ := query_ok h
  have hrows : ∀ row ∈ [model.fill .creating entries], Record.Flat row := by
    intro row hmem
    rw [List.mem_singleton.mp hmem]
    exact hmodel.fill .creating (hop entries hentries)
  exact Insert.flat_build hrows

/-- The rows of an insertion are filled in one by one. -/
theorem filled_of_mapM {items : List Value} {rows : List Record}
    (h : (items.mapM fun v => do .ok (model.fill .creating (← v.entries))) = (.ok rows : Except Fault (List Record))) :
    ∃ given : List Record, items.map Value.entries = given.map .ok ∧ rows = given.map (model.fill .creating) := by
  have hall := mapM_eq_ok_iff.mp h
  clear h
  induction hall with
  | nil => exact ⟨[], rfl, rfl⟩
  | cons hrow _ ih =>
    obtain ⟨entries, hentries, hfilled⟩ := exists_of_bind_eq_ok hrow
    obtain ⟨given, hgiven, rfl⟩ := ih
    obtain rfl := Except.ok.inj hfilled
    exact ⟨entries :: given, by rw [List.map_cons, hentries, hgiven, List.map_cons], rfl⟩

/-- What an insertion of rows is made of, if there is a row. -/
theorem insertion_of_createEach {given : Value} (h : (createEach given).query model schema = .ok q) :
    ∃ items records, given.items = .ok items ∧ items.map Value.entries = records.map .ok ∧
      ((records = [] ∧ q.sql = none ∧ q.arguments = []) ∨ (records ≠ [] ∧ ∃ parts,
        (Insert.build model 0 (.list ((records.map (model.fill .creating)).map .map))).outcome = .ok parts ∧
        q.sql = some (model.insertSql schema parts) ∧
        q.arguments = (Insert.build model 0 (.list ((records.map (model.fill .creating)).map .map))).arguments)) := by
  obtain ⟨items, hitems, h⟩ := exists_of_bind_eq_ok h
  obtain ⟨rows, hrows, h⟩ := exists_of_bind_eq_ok h
  obtain ⟨records, hrecords, rfl⟩ := filled_of_mapM hrows
  refine ⟨items, records, hitems, hrecords, ?_⟩
  cases records with
  | nil =>
    obtain ⟨name, rfl⟩ := query_ok h
    exact .inl ⟨rfl, rfl, rfl⟩
  | cons first later =>
    obtain ⟨parts, hparts, h⟩ := exists_of_bind_eq_ok h
    obtain ⟨name, rfl⟩ := query_ok h
    exact .inr ⟨List.cons_ne_nil first later, parts, hparts, rfl, rfl⟩

theorem flat_createEach {given : Value} (hmodel : model.Flat) (hop : (createEach given).Flat)
    (h : (createEach given).query model schema = .ok q) : ∀ v ∈ q.arguments, v.Flat := by
  obtain ⟨items, records, hitems, hrecords, hcases⟩ := insertion_of_createEach h
  have hgiven : ∀ record ∈ records, Record.Flat record := by
    intro record hmem
    have hok : Except.ok record ∈ items.map Value.entries := hrecords ▸ List.mem_map_of_mem hmem
    obtain ⟨v, hv, hentries⟩ := List.mem_map.mp hok
    exact hop items hitems v hv record hentries
  rcases hcases with ⟨-, -, hnone⟩ | ⟨-, parts, -, -, hbound⟩
  · rw [hnone]
    exact List.forall_mem_nil _
  · rw [hbound]
    apply Insert.flat_build
    intro row hmem
    obtain ⟨record, hrecord, rfl⟩ := List.mem_map.mp hmem
    exact hmodel.fill .creating (hgiven record hrecord)

theorem flat_find {criteria select : Value} (hop : Criteria.Flat criteria)
    (h : model.find criteria select schema = .ok q) : ∀ v ∈ q.arguments, v.Flat := by
  obtain ⟨columns, -, h⟩ := exists_of_bind_eq_ok h
  obtain ⟨conditions, hconditions, h⟩ := exists_of_bind_eq_ok h
  obtain ⟨q', hq, h⟩ := exists_of_bind_eq_ok h
  obtain rfl := Except.ok.inj h
  obtain ⟨name, rfl⟩ := query_ok hq
  exact Criteria.flat_operands hop hconditions

theorem flat_findSorted {criteria select sort limit : Value} (hop : Criteria.Flat criteria)
    (h : model.findSorted criteria select schema sort limit = .ok q) : ∀ v ∈ q.arguments, v.Flat := by
  rw [findSorted_eq] at h
  obtain ⟨found, hfound, h⟩ := exists_of_bind_eq_ok h
  obtain ⟨order, -, h⟩ := exists_of_bind_eq_ok h
  obtain ⟨most, -, h⟩ := exists_of_bind_eq_ok h
  have harguments : q.arguments = found.arguments := by rw [← Except.ok.inj h]
  rw [harguments]
  exact flat_find hop hfound

theorem flat_findOne {criteria select : Value} (hop : Criteria.Flat criteria)
    (h : model.findOne criteria select schema = .ok q) : ∀ v ∈ q.arguments, v.Flat := by
  obtain ⟨columns, -, h⟩ := exists_of_bind_eq_ok h
  obtain ⟨conditions, hconditions, h⟩ := exists_of_bind_eq_ok h
  obtain ⟨q', hq, h⟩ := exists_of_bind_eq_ok h
  obtain rfl := Except.ok.inj h
  obtain ⟨name, rfl⟩ := query_ok hq
  exact Criteria.flat_operands hop hconditions

theorem flat_updating {criteria given : Value} {one : Bool} (hmodel : model.Flat) (hcriteria : Criteria.Flat criteria)
    (hgiven : ∀ entries, given.entries = .ok entries → Record.Flat entries)
    (h : model.updating one criteria given schema = .ok q) : ∀ v ∈ q.arguments, v.Flat := by
  obtain ⟨entries, hentries, h⟩ := exists_of_bind_eq_ok h
  obtain ⟨assignments, -, h⟩ := exists_of_bind_eq_ok h
  obtain ⟨conditions, hconditions, h⟩ := exists_of_bind_eq_ok h
  obtain ⟨q', hq, h⟩ := exists_of_bind_eq_ok h
  obtain rfl := Except.ok.inj h
  obtain ⟨name, rfl⟩ := query_ok hq
  intro v hmem
  rcases List.mem_append.mp hmem with hset | hoperand
  · exact Update.flat_build (hmodel.fill .changing (hgiven entries hentries)) v hset
  · exact Criteria.flat_operands hcriteria hconditions v hoperand

theorem flat_destroying {criteria : Value} {one : Bool} (hop : Criteria.Flat criteria)
    (h : model.destroying one criteria schema = .ok q) : ∀ v ∈ q.arguments, v.Flat := by
  obtain ⟨conditions, hconditions, h⟩ := exists_of_bind_eq_ok h
  obtain ⟨q', hq, h⟩ := exists_of_bind_eq_ok h
  obtain rfl := Except.ok.inj h
  obtain ⟨name, rfl⟩ := query_ok hq
  exact Criteria.flat_operands hop hconditions

/-- **Flat values are bound flat**, whatever the operation. -/
theorem flat_of_query {op : Operation} (hmodel : model.Flat) (hop : op.Flat) (h : op.query model schema = .ok q) :
    ∀ v ∈ q.arguments, v.Flat := by
  cases op with
  | create given => exact flat_create hmodel hop h
  | createEach given => exact flat_createEach hmodel hop h
  | find criteria select sort limit => exact flat_findSorted hop h
  | findOne criteria select => exact flat_findOne hop h
  | update criteria given => exact flat_updating hmodel hop.1 hop.2 h
  | updateOne criteria given => exact flat_updating hmodel hop.1 hop.2 h
  | destroy criteria => exact flat_destroying hop h
  | destroyOne criteria => exact flat_destroying hop h

/-- **A timestamp that is left open in a row is pending**, at the place that the text has for its column in the row. -/
theorem pending_of_createEach {given : Value} {items : List Value} (hitems : given.items = .ok items) (hne : items ≠ [])
    (h : (createEach given).query model schema = .ok q) {name : String} {a : Attribute}
    (ha : model.attributes.get? name = some a) (htime : a.isTimestamp = true) :
    ∃ (columns : List Value) (place : Nat),
      q.sql = some (model.insertSql schema
        ⟨Insert.columnsSql columns, Insert.valuesSql 0 columns.length items.length⟩) ∧
      columns[place]? = some (.text name) ∧
      ∀ (i : Nat) (v : Value) (entries : Record), items[i]? = some v → v.entries = .ok entries →
        a.LeftOpen (entries.get? (.text name)) → q.arguments[i * columns.length + place]? = some .pending := by
  obtain ⟨items', records, hitems', hrecords, hcases⟩ := insertion_of_createEach h
  obtain rfl := Except.ok.inj (hitems.symm.trans hitems')
  have hlength : items.length = records.length := by simpa using congrArg List.length hrecords
  cases records with
  | nil => exact absurd (List.length_eq_zero_iff.mp hlength) hne
  | cons first later =>
    rcases hcases with ⟨hnil, -, -⟩ | ⟨-, parts, hparts, hsql, hbound⟩
    · cases hnil
    · obtain ⟨place, hplace, hpending⟩ := Insert.pending_of_leftOpen ha htime hparts
      have hsome : model.fill .creating first ≠ [] := by
        intro hnil
        rw [hnil] at hplace
        cases hplace
      obtain ⟨-, hwritten⟩ := Insert.build_ok hparts
      rw [if_neg hsome] at hwritten
      refine ⟨(model.fill .creating first).map (·.1), place, ?_, hplace, ?_⟩
      · rw [hsql, hwritten, hlength]
        simp
      · intro i v entries hv hentries hopen
        have hrow : (first :: later)[i]? = some entries := by
          have hok := congrArg (·[i]?) hrecords
          simp only [List.getElem?_map, hv, Option.map_some, hentries] at hok
          obtain ⟨record, hrecord, heq⟩ := Option.map_eq_some_iff.mp hok.symm
          rw [hrecord, Except.ok.inj heq]
        rw [hbound, List.length_map]
        exact hpending i entries hrow hopen

end Operation

end ModelStore

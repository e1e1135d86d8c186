import ModelStore.Proofs.Query.Alike
import ModelStore.Proofs.Query.Calls
import ModelStore.Proofs.Write.Columns

/-!
# An update that sets nothing

There is nothing to write for an update without columns, and filling in adds no column to it. It has the text of a
read all the same, for the case that its results are wanted: **then it is that read**, whatever else is set, and the
same modifiers are refused. If they are not wanted, it asks storage for nothing. An update that does set something is
never a read (`empty_update_reads`).

The two texts are put together in different places, one of them behind the assignments. They agree because an
assignment of nothing binds nothing, so that the conditions are counted from the same argument.
-/

namespace ModelStore

open Sql
open Sorting (exists_of_bind_eq_ok)

namespace Query

variable {q q' : Query}

/-- A query that has nothing to write, and another that writes what the first one reads in place of it. -/
structure ReadsAs (q q' : Query) : Prop where
  alike : Alike q q'
  building : q.stage = .building
  nothing : q.sql = none
  looked : q'.sql = q.lookup
  text : q'.sql.isSome = true
  arguments : q.arguments = q'.arguments
  single : q.single = q'.single
  fetching : q.fetching = true
  fetches : q.fetchMode ≠ .raw
  mode : q'.mode = q.fetchMode
  fetchMode : q'.fetchMode = q.fetchMode
  returning : q'.returning = false

/-- **The two are one statement**, whatever modifiers are applied to both. -/
theorem ReadsAs.build_eq (h : ReadsAs q q') (registry : Option Registry) (ms : List Modifier) :
    (q.modifyEach registry ms).build = (q'.modifyEach registry ms).build := by
  obtain ⟨hwork, hfetching⟩ := sameWork_modifyEach registry h.building ms
  obtain ⟨hwork', -⟩ := sameWork_modifyEach registry (h.alike.stage.symm.trans h.building) ms
  rw [h.fetching, Bool.true_or] at hfetching
  have hmode : (q.modifyEach registry ms).finalMode = q.fetchMode := by
    rw [finalMode, if_pos hfetching, hwork.fetchMode]
  have hmode' : (q'.modifyEach registry ms).finalMode = q.fetchMode := by
    unfold finalMode
    rw [hwork'.fetchMode, hwork'.mode, h.fetchMode, h.mode, ite_self]
  have hbody : (q.modifyEach registry ms).body? = q.lookup := by
    unfold body?
    rw [hwork.sql, h.nothing, hmode]
    dsimp only
    rw [if_neg h.fetches, hwork.lookup]
  have hbody' : (q'.modifyEach registry ms).body? = q.lookup := by
    obtain ⟨sql, hsql⟩ := Option.isSome_iff_exists.mp h.text
    unfold body?
    rw [hwork'.sql, hsql, hwork'.returning, h.returning, Bool.and_false, ← h.looked, hsql]
    rfl
  refine (h.alike.modifyEach registry ms).1.build_eq (hbody.trans hbody'.symm) ?_ (hmode.trans hmode'.symm) ?_
  · rw [hwork.arguments, hwork'.arguments, h.arguments]
  · rw [hwork.single, hwork'.single, h.single]

/-- A query without a text is over as soon as it is run. -/
theorem run_of_textless (h : q.stage = .building) (hsql : q.build.sql = none) {σ : Type}
    (storage : Dialogue.Storage σ) (st : σ) :
    ∃ after, q.run storage st = .ok (after, ⟨.ok (.empty q.finalMode), [], st⟩) := by
  refine ⟨{ q with stage := .executing }.settle, ?_⟩
  have hexecute : q.build.execute = .ok (.empty q.build.mode) := by
    unfold Statement.execute
    rw [hsql]
  rw [run, Life.begin_of_building h]
  simp only [bind, Except.bind, hexecute]
  rfl

end Query

namespace Operation

variable {model : Model} {criteria schema : Value} {registry : Option Registry} {q : Query}

/-! ## Nothing to set -/

/-- The read that an update without columns comes down to. -/
def lookup (one : Bool) (criteria : Value) : Operation :=
  if one then findOne criteria .null else find criteria .null .null .null

theorem updating_nothing (model : Model) (one : Bool) (criteria schema : Value) :
    model.updating one criteria (.map []) schema = (do
      let conditions ← Criteria.parse criteria
      let clause := model.whereClause schema one 0 conditions
      let q ← model.query schema none (Criteria.operands conditions) (if one then .single else .raw)
        (if one then .single else .rows)
      .ok { q with
        lookup := some (Sql.spaced [Model.selectFrom [.mark .star] (model.tableSql schema), clause])
        single := one, fetching := one }) := by
  have hfill : model.fill .changing [] = [] := List.map_eq_nil_iff.mp (model.keys_fill_changing [])
  have hentries : (Value.map []).entries = .ok [] := rfl
  unfold Model.updating
  rw [hentries]
  simp only [bind, Except.bind, hfill]
  rfl

theorem query_lookup (model : Model) (one : Bool) (criteria schema : Value) :
    (lookup one criteria).query model schema = (do
      let conditions ← Criteria.parse criteria
      let clause := model.whereClause schema one 0 conditions
      let q ← model.query schema
        (some (Sql.spaced [Model.selectFrom [.mark .star] (model.tableSql schema), clause]))
        (Criteria.operands conditions) (if one then .single else .rows) (if one then .single else .rows)
      .ok { q with returning := false, single := one }) := by
  cases one with
  | true => rfl
  | false =>
    have hquery : (lookup false criteria).query model schema =
        model.findSorted criteria .null schema .null .null := rfl
    rw [hquery]
    unfold Model.findSorted Model.find
    cases Criteria.parse criteria with
    | error fault => rfl
    | ok conditions =>
      unfold Model.query
      cases Attribute.optionalText schema <;> rfl

/-- **An update without columns is refused with the read**, or it reads as it. -/
theorem readsAs_of_updating (model : Model) (one : Bool) (criteria schema : Value) :
    (∃ fault, model.updating one criteria (.map []) schema = .error fault ∧
      (lookup one criteria).query model schema = .error fault) ∨
    ∃ q q', model.updating one criteria (.map []) schema = .ok q ∧ (lookup one criteria).query model schema = .ok q' ∧
      Query.ReadsAs { q with fetching := true } q' ∧ q.fetching = one ∧ (one = false → q.mode = .raw) := by
  rw [updating_nothing, query_lookup]
  cases Criteria.parse criteria with
  | error fault => exact .inl ⟨fault, rfl, rfl⟩
  | ok conditions =>
    unfold Model.query
    cases Attribute.optionalText schema with
    | error problem => exact .inl ⟨_, rfl, rfl⟩
    | ok name =>
      refine .inr ⟨_, _, rfl, rfl, ?_, rfl, ?_⟩
      · refine
          { alike := ⟨rfl, rfl, rfl, rfl, rfl, rfl, rfl, rfl⟩
            building := rfl
            nothing := rfl
            looked := rfl
            text := rfl
            arguments := rfl
            single := rfl
            fetching := rfl
            fetches := ?_
            mode := rfl
            fetchMode := rfl
            returning := rfl }
        cases one with
        | true => exact Mode.noConfusion
        | false => exact Mode.noConfusion
      · intro hone
        subst hone
        rfl

theorem modify_fetch (h : q.stage = .building) :
    q.modify registry .fetch = .ok { q with fetching := true } :=
  Query.modify_of_building h .fetch

/-- Fetching first, an update without columns goes the way of the read. -/
theorem fetched_of_updating (model : Model) (one : Bool) (criteria schema : Value) (registry : Option Registry)
    (ms : List Query.Modifier) :
    (model.updating one criteria (.map []) schema).map (fun q =>
        ((q.modifyEach registry (.fetch :: ms)).build, q.refusals registry (.fetch :: ms))) =
      ((lookup one criteria).query model schema).map fun q =>
        ((q.modifyEach registry ms).build, none :: q.refusals registry ms) := by
  rcases readsAs_of_updating model one criteria schema with ⟨fault, hq, hq'⟩ | ⟨q, q', hq, hq', hreads, -, -⟩
  · rw [hq, hq']
    rfl
  · have hfetch : q.modify registry .fetch = .ok { q with fetching := true } := modify_fetch hreads.building
    have hrefusals := (hreads.alike.modifyEach registry ms).2
    rw [hq, hq', Except.map, Except.map, Query.modifyEach_cons, Query.refusals, hfetch]
    dsimp only
    rw [hreads.build_eq registry ms, hrefusals]

/-- An update of one row fetches it in any case. -/
theorem statement_of_updateOne (model : Model) (criteria schema : Value) (registry : Option Registry)
    (ms : List Query.Modifier) :
    (model.updating true criteria (.map []) schema).map (fun q =>
        ((q.modifyEach registry ms).build, q.refusals registry ms)) =
      ((lookup true criteria).query model schema).map fun q =>
        ((q.modifyEach registry ms).build, q.refusals registry ms) := by
  rcases readsAs_of_updating model true criteria schema with ⟨fault, hq, hq'⟩ | ⟨q, q', hq, hq', hreads, hfetching, -⟩
  · rw [hq, hq']
  · have hsame : { q with fetching := true } = q := by rw [← hfetching]
    rw [hsame] at hreads
    have hrefusals := (hreads.alike.modifyEach registry ms).2
    rw [hq, hq', Except.map, Except.map, hreads.build_eq registry ms, hrefusals]

/-- **What is not fetched is not read either.** -/
theorem textless_of_updating (registry : Option Registry) (h : model.updating false criteria (.map []) schema = .ok q)
    {ms : List Query.Modifier} (hfetch : .fetch ∉ ms) :
    (q.modifyEach registry ms).stage = .building ∧ (q.modifyEach registry ms).build.sql = none ∧
      (q.modifyEach registry ms).finalMode = .raw := by
  rcases readsAs_of_updating model false criteria schema with ⟨fault, hq, -⟩ | ⟨q', _, hq, -, hreads, hfetching, hraw⟩
  · cases h.symm.trans hq
  · obtain rfl := Except.ok.inj (h.symm.trans hq)
    have hbuilding : q.stage = .building := hreads.building
    obtain ⟨hwork, hfetched⟩ := Query.sameWork_modifyEach registry hbuilding ms
    have hnone : ms.any Query.Modifier.fetches = false := by
      rw [Bool.eq_false_iff, ne_eq, Query.any_fetches_iff]
      exact hfetch
    rw [hfetching, hnone, Bool.or_false] at hfetched
    have hmode : (q.modifyEach registry ms).finalMode = .raw := by
      rw [Query.finalMode, hfetched, hwork.mode, hraw rfl]
      rfl
    have hnothing : q.sql = none := hreads.nothing
    refine ⟨Query.stage_modifyEach hbuilding ms, ?_, hmode⟩
    unfold Query.build Query.text? Query.body?
    rw [hwork.sql, hnothing, hmode]
    rfl

/-! ## Something to set -/

theorem exists_spaced {first : Sql} (hne : first ≠ []) (second : Sql) :
    ∃ rest, Sql.spaced [first, second] = first ++ rest := by
  have hkept : (!first.isEmpty) = true := by simpa using hne
  cases second with
  | nil => exact ⟨[], by simp [Sql.spaced, joined, hkept]⟩
  | cons token second => exact ⟨.blank :: token :: second, by simp [Sql.spaced, joined, hkept]⟩

/-- An update that sets something is an update. -/
theorem sql_of_updating {one : Bool} {given : Value} {entries : Record} (hentries : given.entries = .ok entries)
    (hne : entries ≠ []) (h : model.updating one criteria given schema = .ok q) :
    q.stage = .building ∧ ∃ rest, q.sql = some (.keyword .UPDATE :: .blank :: rest) := by
  obtain ⟨entries', hentries', h⟩ := exists_of_bind_eq_ok h
  obtain rfl := Except.ok.inj (hentries.symm.trans hentries')
  obtain ⟨assignments, -, h⟩ := exists_of_bind_eq_ok h
  obtain ⟨conditions, -, h⟩ := exists_of_bind_eq_ok h
  obtain ⟨made, hmade, h⟩ := exists_of_bind_eq_ok h
  obtain rfl := Except.ok.inj h
  have hfilled : (model.fill .changing entries).isEmpty = false := by
    rw [List.isEmpty_eq_false_iff]
    intro hnil
    have hkeys := model.keys_fill_changing entries
    rw [hnil, List.map_nil] at hkeys
    exact hne (List.map_eq_nil_iff.mp hkeys.symm)
  obtain ⟨name, rfl⟩ := query_ok hmade
  obtain ⟨rest, hrest⟩ := exists_spaced
    (List.cons_ne_nil (.keyword .UPDATE)
      (.blank :: model.tableSql schema ++ .blank :: .keyword .SET :: .blank :: assignments))
    (model.whereClause schema one (Update.build model 0 (model.fill .changing entries)).arguments.length conditions)
  refine ⟨rfl, model.tableSql schema ++ .blank :: .keyword .SET :: .blank :: assignments ++ rest, ?_⟩
  simp only [Query.plain, hfilled, Bool.false_eq_true, if_false]
  refine congrArg some (hrest.trans ?_)
  simp

/-- What a text begins with is what the statement begins with, whatever modifiers are applied. -/
theorem text_of_modified {first rest : Sql} (hbuilding : q.stage = .building) (hsql : q.sql = some (first ++ rest))
    (registry : Option Registry) (ms : List Query.Modifier) :
    ∃ text, (q.modifyEach registry ms).build.sql = some (first.render ++ text) := by
  obtain ⟨hwork, -⟩ := Query.sameWork_modifyEach registry hbuilding ms
  refine ⟨(rest ++ (q.modifyEach registry ms).tail).render, ?_⟩
  unfold Query.build
  rw [Query.text?_of_sql (hwork.sql.trans hsql), Option.map_some, List.append_assoc, render_append]

/-! ## The whole -/

/-- **An update that sets nothing is a read, or nothing.** Fetched, it is the statement of `find`, or of `findOne`, and
the same modifiers are refused; not fetched, it asks storage for nothing and is empty. And an update that sets
something is no read. -/
theorem empty_update_reads (model : Model) (criteria schema : Value) (registry : Option Registry)
    (ms : List Query.Modifier) :
    (((update criteria (.map [])).query model schema).map (fun q =>
        ((q.modifyEach registry (.fetch :: ms)).build, q.refusals registry (.fetch :: ms))) =
      ((find criteria .null .null .null).query model schema).map fun q =>
        ((q.modifyEach registry ms).build, none :: q.refusals registry ms)) ∧
    (((updateOne criteria (.map [])).query model schema).map (fun q =>
        ((q.modifyEach registry ms).build, q.refusals registry ms)) =
      ((findOne criteria .null).query model schema).map fun q =>
        ((q.modifyEach registry ms).build, q.refusals registry ms)) ∧
    (∀ q, (update criteria (.map [])).query model schema = .ok q → .fetch ∉ ms →
      (q.modifyEach registry ms).build.sql = none ∧
      ∀ (σ : Type) (storage : Dialogue.Storage σ) (st : σ), ∃ after,
        (q.modifyEach registry ms).run storage st = .ok (after, ⟨.ok (.raw .empty), [], st⟩)) ∧
    ∀ given entries, given.entries = .ok entries → entries ≠ [] →
      ∀ op ∈ [update criteria given, updateOne criteria given], ∀ q, op.query model schema = .ok q →
        ∃ rest, (q.modifyEach registry ms).build.sql = some ("UPDATE " ++ rest) := by
  refine ⟨fetched_of_updating model false criteria schema registry ms,
    statement_of_updateOne model criteria schema registry ms, ?_, ?_⟩
  · intro q hq hfetch
    obtain ⟨hbuilding, hsql, hmode⟩ := textless_of_updating registry hq hfetch
    refine ⟨hsql, ?_⟩
    intro σ storage st
    obtain ⟨after, hrun⟩ := Query.run_of_textless hbuilding hsql storage st
    rw [hmode] at hrun
    exact ⟨after, hrun⟩
  · intro given entries hentries hne op hop q hq
    have hupdating : ∃ one, model.updating one criteria given schema = .ok q := by
      simp only [List.mem_cons, List.not_mem_nil, or_false] at hop
      rcases hop with rfl | rfl
      · exact ⟨false, hq⟩
      · exact ⟨true, hq⟩
    obtain ⟨one, hupdating⟩ := hupdating
    obtain ⟨hbuilding, rest, hsql⟩ := sql_of_updating hentries hne hupdating
    have hbegins : q.sql = some ([.keyword .UPDATE, .blank] ++ rest) := hsql
    exact text_of_modified hbuilding hbegins registry ms

def pages : Model where
  name := "Pages"
  attributes := [("title", ⟨.string, false, some (.text "untitled"), false, false, true, none⟩)]

def byTitle : Value := .map [(.text "title", .text "old")]

/-- An order and a limit, with a population that is refused in between. -/
def listing : List Query.Modifier := [.sort (.text "title desc"), .populate (.text "title"), .limit (.int 3)]

theorem empty_update_reads_of_pages :
    (∃ q q', (update byTitle (.map [])).query pages .null = .ok q ∧
      (find byTitle .null .null .null).query pages .null = .ok q' ∧
      (q.modifyEach (some ⟨[]⟩) (.fetch :: listing)).build = (q'.modifyEach (some ⟨[]⟩) listing).build ∧
      q'.refusals (some ⟨[]⟩) listing = [none, some (.refused (.notRelation (.text "title") "Pages")), none] ∧
      (q'.modifyEach (some ⟨[]⟩) listing).build.sql =
        some "SELECT * FROM \"pages\" WHERE \"title\" = $1 ORDER BY \"title\" DESC LIMIT 3") ∧
    (∃ q, (update byTitle (.map [])).query pages .null = .ok q ∧ .fetch ∉ listing ∧
      (q.modifyEach (some ⟨[]⟩) listing).build.sql = none) ∧
    ∃ q, (update byTitle (.map [(.text "title", .text "new")])).query pages .null = .ok q ∧
      ∃ rest, (q.modifyEach (some ⟨[]⟩) listing).build.sql = some ("UPDATE " ++ rest) := by
  obtain ⟨q, hq⟩ : ∃ q, (update byTitle (.map [])).query pages .null = .ok q := ⟨_, rfl⟩
  obtain ⟨q', hq'⟩ : ∃ q, (find byTitle .null .null .null).query pages .null = .ok q := ⟨_, rfl⟩
  obtain ⟨q'', hq''⟩ : ∃ q, (update byTitle (.map [(.text "title", .text "new")])).query pages .null = .ok q := ⟨_, rfl⟩
  obtain ⟨hfetched, -, htextless, hwritten⟩ := empty_update_reads pages byTitle .null (some ⟨[]⟩) listing
  have hnot : .fetch ∉ listing := by simp [listing]
  rw [hq, hq'] at hfetched
  obtain ⟨hbuild, -⟩ := Prod.mk.inj (Except.ok.inj hfetched)
  refine ⟨⟨q, q', hq, hq', hbuild, ?_, ?_⟩, ⟨q, hq, hnot, (htextless q hq hnot).1⟩, q'', hq'', ?_⟩
  · obtain rfl := Except.ok.inj hq'
    rfl
  · obtain rfl := Except.ok.inj hq'
    rfl
  · exact hwritten _ _ rfl (List.cons_ne_nil _ _) _ List.mem_cons_self q'' hq''

end Operation

end ModelStore

import ModelStore.Proofs.Query.Alike
import ModelStore.Proofs.Query.Binding
import ModelStore.Proofs.Write.Placement

/-!
# Creating records

There are two ways to create records: one, and several at once. Several are created by one statement, so they have to
have the same columns once the model has filled in what is missing; **which rows that is, is a matter of the columns
that the model does not fill in** (`createEach_accepts_iff`).

One record that is created by itself and one that is created as the only one of several are the same statement, **unless
there is no column to write at all** (`create_eq_createEach_iff`). Then `create` lets storage fill in all columns, while
`createEach` writes an insertion without columns and without values, which is no statement
(`createEach_without_columns`).
-/

namespace ModelStore

open Sql
open Sorting (exists_of_bind_eq_ok)

/-! ## What is filled in can be bound -/

namespace Model

variable {model : Model} {record : Record}

/-- What an attribute supplies has a form in every column. -/
theorem exists_serialize_of_supply {a : Attribute} {occasion : Occasion} {v : Value}
    (h : a.supply? occasion = some v) (column : Value) : ∃ w, model.serialize column v = .ok w := by
  rcases Attribute.supply?_origin h with rfl | hzero
  · exact ⟨.pending, serialize_of_keeps (.inr (.inl rfl))⟩
  · obtain ⟨s, hs⟩ : ∃ s, v.json = .ok s := by
      rcases Attribute.zero?_cases hzero with rfl | rfl | rfl
      · exact ⟨_, rfl⟩
      · exact ⟨_, rfl⟩
      · exact ⟨_, rfl⟩
    by_cases hkeeps : model.Keeps column v
    · exact ⟨v, serialize_of_keeps hkeeps⟩
    · exact ⟨.text s, serialize_eq_ok_iff.mpr (.json hkeeps hs)⟩

/-- The values of a row have forms to be bound in: those that are given, and the defaults that are declared for columns
that are not. -/
structure Serializes (model : Model) (row : Record) : Prop where
  given : ∀ entry ∈ row, ∃ w, model.serialize entry.1 entry.2 = .ok w
  defaulted : ∀ entry ∈ model.attributes, row.has (.text entry.1) = false →
    ∀ v, entry.2.declaredDefault = some v → ∃ w, model.serialize (.text entry.1) v = .ok w

theorem serializes_fillColumn {entry : String × Attribute}
    (hgiven : ∀ cell ∈ record, ∃ w, model.serialize cell.1 cell.2 = .ok w)
    (hdefaulted : record.has (.text entry.1) = false → ∀ v, entry.2.declaredDefault = some v →
      ∃ w, model.serialize (.text entry.1) v = .ok w) :
    ∀ cell ∈ fillColumn .creating record entry, ∃ w, model.serialize cell.1 cell.2 = .ok w := by
  unfold fillColumn
  dsimp only
  split
  case h_2 => exact hgiven
  case h_1 v hsettle =>
    have hv : ∃ w, model.serialize (.text entry.1) v = .ok w := by
      rcases Attribute.settle_origin hsettle with hget | ⟨hget, hdeclared⟩ | hsupply
      · exact hgiven _ (Record.mem_of_get? hget)
      · have hmissing : record.has (.text entry.1) = false := by rw [← Record.isSome_get?, hget, Option.isSome_none]
        exact hdefaulted hmissing v hdeclared
      · exact exists_serialize_of_supply hsupply _
    intro cell hcell
    rcases Record.mem_put hcell with hold | ⟨hkey, hvalue⟩
    · exact hgiven cell hold
    · have hname : cell.1 = .text entry.1 := hkey.elim id Value.equal_text_iff.mp
      rw [hname, hvalue]
      exact hv

/-- **The values of a record that is created have forms**, if those that were given and declared do. -/
theorem Serializes.fill (h : model.Serializes record) :
    ∀ cell ∈ model.fill .creating record, ∃ w, model.serialize cell.1 cell.2 = .ok w := by
  obtain ⟨hgiven, hdefaulted⟩ := h
  unfold Model.fill
  revert hdefaulted
  generalize model.attributes = attributes
  intro hdefaulted
  induction attributes generalizing record with
  | nil => exact hgiven
  | cons entry rest ih =>
    refine ih (serializes_fillColumn hgiven (hdefaulted entry List.mem_cons_self)) ?_
    intro other hother hmissing
    -- a column that is still missing was missing before
    refine hdefaulted other (List.mem_cons_of_mem _ hother) ?_
    rw [Bool.eq_false_iff, ne_eq, Record.has_text_iff] at hmissing ⊢
    exact fun hthere => hmissing (mem_keys_fillColumn.mpr (.inl hthere))

end Model

/-! ## Rows that may be created together -/

/-- **Rows that may be created together**: any two of them have the same columns, but for those that the model fills
in; and if there are several, they are not all without a column that would not be filled in. -/
structure Model.Accepts (model : Model) (rows : List Record) : Prop where
  same : ∀ row ∈ rows, ∀ other ∈ rows, ∀ column, ¬ model.FillsIn column →
    (.text column ∈ row.map (·.1) ↔ .text column ∈ other.map (·.1))
  some : ¬ (2 ≤ rows.length ∧ (∀ row ∈ rows, row = []) ∧ ∀ column, ¬ model.FillsIn column)

namespace Model

variable {model : Model} {row other : Record}

/-- The columns that the model does not fill in are the same. -/
def Agree (model : Model) (row other : Record) : Prop :=
  ∀ column, ¬ model.FillsIn column → (.text column ∈ row.map (·.1) ↔ .text column ∈ other.map (·.1))

theorem Agree.symm (h : model.Agree row other) : model.Agree other row := by
  intro column hnot
  exact (h column hnot).symm

theorem Agree.mem_keys_fill (h : model.Agree row other) (hnamed : row.Named) {v : Value}
    (hv : v ∈ (model.fill .creating row).map (·.1)) : v ∈ (model.fill .creating other).map (·.1) := by
  rw [Model.mem_keys_fill] at hv ⊢
  rcases hv with hv | hfills
  · obtain ⟨column, rfl⟩ := hnamed v hv
    by_cases hfills : model.FillsIn column
    · exact .inr ⟨column, rfl, hfills⟩
    · exact .inl ((h column hfills).mp hv)
  · exact .inr hfills

/-- **After filling in, the columns are the same exactly if the rest of them was.** -/
theorem same_keys_fill_iff (hrow : row.Named) (hother : other.Named) :
    (∀ v, v ∈ (model.fill .creating row).map (·.1) ↔ v ∈ (model.fill .creating other).map (·.1)) ↔
      model.Agree row other := by
  constructor
  · intro h column hnot
    have hcolumn := h (.text column)
    simpa [Model.mem_keys_fill, hnot] using hcolumn
  · intro h v
    exact ⟨h.mem_keys_fill hrow, h.symm.mem_keys_fill hother⟩

end Model

namespace Insert

variable {model : Model} {first : Record} {later : List Record}

/-- **Filled in, rows suit each other exactly if they may be created together.** -/
theorem suit_fill_iff (hnamed : ∀ row ∈ first :: later, row.Named) :
    Suit (model.fill .creating first) (later.map (model.fill .creating)) ↔ model.Accepts (first :: later) := by
  have hfirst := hnamed first List.mem_cons_self
  have hsame : (∀ row ∈ later.map (model.fill .creating), ∀ v,
      v ∈ row.map (·.1) ↔ v ∈ (model.fill .creating first).map (·.1)) ↔ ∀ row ∈ later, model.Agree row first := by
    rw [List.forall_mem_map]
    refine forall₂_congr ?_
    intro row hrow
    exact Model.same_keys_fill_iff (hnamed row (List.mem_cons_of_mem _ hrow)) hfirst
  rw [Suit, hsame, Model.fill_creating_eq_nil_iff, List.map_eq_nil_iff]
  constructor
  · rintro ⟨hagree, hnone⟩
    have hall : ∀ row ∈ first :: later, model.Agree row first :=
      List.forall_mem_cons.mpr ⟨fun _ _ => Iff.rfl, hagree⟩
    refine ⟨?_, ?_⟩
    · intro row hrow other hother column hnot
      exact (hall row hrow column hnot).trans (hall other hother column hnot).symm
    · rintro ⟨hseveral, hempty, hfills⟩
      rw [hnone ⟨hempty first List.mem_cons_self, hfills⟩] at hseveral
      simp at hseveral
  · rintro ⟨hagree, hsome⟩
    refine ⟨fun row hrow => hagree row (List.mem_cons_of_mem _ hrow) first List.mem_cons_self, ?_⟩
    rintro ⟨rfl, hfills⟩
    -- with nothing in the first row and nothing filled in, there is nothing in any row
    have hempty : ∀ row ∈ [] :: later, row = [] := by
      intro row hrow
      apply List.map_eq_nil_iff.mp
      rw [List.eq_nil_iff_forall_not_mem]
      intro v hv
      obtain ⟨column, rfl⟩ := hnamed row hrow v hv
      exact absurd ((hagree row hrow [] List.mem_cons_self column (hfills column)).mp hv) (by simp)
    by_contra hlater
    exact hsome ⟨Nat.succ_le_succ (List.length_pos_of_ne_nil hlater), hempty, hfills⟩

/-! ## What is accepted can be bound -/

theorem exists_ok_of_mem_allCells (hfirst : ∀ cell ∈ first, ∃ w, model.serialize cell.1 cell.2 = .ok w)
    (hlater : ∀ row ∈ later, ∀ cell ∈ row, ∃ w, model.serialize cell.1 cell.2 = .ok w)
    (hnamed : first.Named) (hsuit : Suit first later) :
    ∀ cell ∈ allCells model (first.map (·.1)) ((first :: later).map .map), ∃ w, cell = .ok w := by
  intro cell hcell
  rcases List.mem_append.mp hcell with hcell | hcell
  · obtain ⟨entry, hentry, rfl⟩ := List.mem_map.mp hcell
    exact hfirst entry hentry
  · obtain ⟨row', hrow', hcell⟩ := List.mem_flatMap.mp hcell
    obtain ⟨row, hrow, rfl⟩ := List.mem_map.mp hrow'
    obtain ⟨v, hv, rfl⟩ := List.mem_map.mp hcell
    obtain ⟨column, rfl⟩ := hnamed v hv
    have hhas := Record.has_text_iff.mpr ((hsuit.1 row hrow _).mpr hv)
    rw [← Record.isSome_get?, Option.isSome_iff_exists] at hhas
    obtain ⟨v, hget⟩ := hhas
    obtain ⟨w, hw⟩ := hlater row hrow _ (Record.mem_of_get? hget)
    refine ⟨w, ?_⟩
    rw [Record.at?_map hget]
    exact hw

/-- **Rows that suit each other are built**, if each of their values has a form. -/
theorem exists_build_of_suit (hnamed : ∀ row ∈ first :: later, row.Named) (hsuit : Suit first later)
    (hforms : ∀ row ∈ first :: later, ∀ cell ∈ row, ∃ w, model.serialize cell.1 cell.2 = .ok w) :
    ∃ parts, (build model 0 (.list ((first :: later).map .map))).outcome = .ok parts := by
  obtain ⟨hfirst, hlater⟩ := List.forall_mem_cons.mp hnamed
  have hcolumns := columnsOf_of_suit hfirst hlater hsuit
  by_cases hsome : first.map (·.1) = []
  · refine ⟨⟨[], []⟩, ?_⟩
    simp only [build, hcolumns, hsome]
    rfl
  · obtain ⟨hfirst', hlater'⟩ := List.forall_mem_cons.mp hforms
    have hcells := exists_ok_of_mem_allCells hfirst' hlater' hfirst hsuit
    rw [build_of_columns hcolumns rfl hsome]
    cases houtcome : (Bound.ofCells (allCells model (first.map (·.1)) ((first :: later).map .map))
        (Parts.mk (columnsSql (first.map (·.1)))
          (valuesSql 0 (first.map (·.1)).length ((first :: later).map Value.map).length))).outcome with
    | ok parts => exact ⟨parts, rfl⟩
    | error fault =>
      obtain ⟨w, hw⟩ := hcells _ (Bound.mem_of_ofCells_error houtcome)
      cases hw

end Insert

namespace Operation

variable {model : Model} {given schema : Value} {rows : List Record}

/-- Values that are read as the given rows. -/
def ReadAs (items : List Value) (rows : List Record) : Prop :=
  List.Forall₂ (fun v row => Value.entries v = .ok row) items rows

theorem readAs_map (rows : List Record) : ReadAs (rows.map .map) rows := by
  unfold ReadAs
  rw [List.forall₂_map_left_iff, List.forall₂_same]
  exact fun _ _ => rfl

variable {items : List Value}

/-- The rows of an insertion are filled in one by one. -/
theorem mapM_fill (model : Model) (h : ReadAs items rows) :
    (items.mapM fun v => v.entries >>= fun entries => .ok (model.fill .creating entries)) =
      (.ok (rows.map (model.fill .creating)) : Except Fault (List Record)) := by
  rw [mapM_eq_ok_iff, List.forall₂_map_right_iff]
  refine List.Forall₂.imp ?_ h
  intro v row hentries
  rw [hentries]
  rfl

theorem query_createEach (hgiven : given.items = .ok items) (hrows : ReadAs items rows) (hne : rows ≠ []) :
    (createEach given).query model schema = (do
      let built := Insert.build model 0 (.list ((rows.map (model.fill .creating)).map .map))
      let parts ← built.outcome
      model.query schema (some (model.insertSql schema parts)) built.arguments .raw .rows) := by
  have hquery : (createEach given).query model schema = model.createEach given schema := rfl
  have hsome : (rows.map (model.fill .creating)).isEmpty = false := by simpa using hne
  have hfilled := mapM_fill model hrows
  rw [hquery, Model.createEach, hgiven]
  simp only [bind, Except.bind] at hfilled ⊢
  simp only [hfilled, hsome, Bool.false_eq_true, if_false]

theorem reading_createEach (hgiven : given.items = .ok items) (hrows : ReadAs items rows) :
    (createEach given).reading model = .ok
      { kind := .createEach
        written := ((rows.map (model.fill .creating)).head?.getD []).map (·.1)
        rows := rows.length } := by
  have hfilled := mapM_fill model hrows
  simp only [bind, Except.bind] at hfilled
  simp only [reading, hgiven, bind, Except.bind, hfilled, List.length_map]

/-- The names in the text of an insertion are those of the table and the columns. -/
theorem columns_of_createEach {q : Query} (hgiven : given.items = .ok (rows.map .map)) (hne : rows ≠ [])
    (hnamed : ∀ row ∈ rows, row.Named) (h : (createEach given).query model schema = .ok q) :
    ∃ text tokens columns, q.build.sql = some text ∧ lex text = some tokens ∧
      names tokens = tableNames (.text model.table) schema ++ columns ∧
      ∀ column, column ∈ columns ↔
        (∃ first ∈ rows.head?, .text column ∈ first.map (·.1)) ∨ model.FillsIn column := by
  obtain ⟨first, later, rfl⟩ := List.exists_cons_of_ne_nil hne
  obtain ⟨r, hreading, hwrites⟩ := writes_createEach h
  obtain rfl := Except.ok.inj ((reading_createEach hgiven (readAs_map _)).symm.trans hreading)
  rw [query_createEach hgiven (readAs_map _) hne] at h
  obtain ⟨parts, -, h⟩ := exists_of_bind_eq_ok h
  obtain ⟨name, rfl⟩ := query_ok h
  obtain ⟨tokens, hlex, hnames, -, -⟩ := (says_text hwrites (Query.text?_of_sql rfl)).lexed
  refine ⟨_, tokens, ((model.fill .creating first).map (·.1)).map Value.plain, ?_, hlex, ?_, ?_⟩
  · rw [Query.build, Query.text?_of_sql rfl]
    rfl
  · rw [hnames]
    simp [Reading.names, Reading.bodyNames]
  · have hfirst := hnamed first List.mem_cons_self
    intro column
    have hcolumn : column ∈ ((model.fill .creating first).map (·.1)).map Value.plain ↔
        .text column ∈ (model.fill .creating first).map (·.1) := by
      constructor
      · intro hmem
        obtain ⟨v, hv, rfl⟩ := List.mem_map.mp hmem
        obtain ⟨s, rfl⟩ := hfirst.fill model v hv
        exact hv
      · intro hmem
        exact List.mem_map.mpr ⟨_, hmem, rfl⟩
    rw [hcolumn, Model.mem_keys_fill]
    simp

theorem exists_createEach {name : Option String} (hgiven : given.items = .ok (rows.map .map)) (hne : rows ≠ [])
    (hschema : Attribute.optionalText schema = .ok name) (hnamed : ∀ row ∈ rows, row.Named)
    (hforms : ∀ row ∈ rows, model.Serializes row) (haccepts : model.Accepts rows) :
    ∃ q, (createEach given).query model schema = .ok q := by
  rw [query_createEach hgiven (readAs_map _) hne]
  obtain ⟨first, later, rfl⟩ := List.exists_cons_of_ne_nil hne
  have hfilled : ∀ row ∈ (first :: later).map (model.fill .creating), row.Named := by
    rw [List.forall_mem_map]
    exact fun row hrow => (hnamed row hrow).fill model
  have hserialized : ∀ row ∈ (first :: later).map (model.fill .creating), ∀ cell ∈ row,
      ∃ w, model.serialize cell.1 cell.2 = .ok w := by
    rw [List.forall_mem_map]
    exact fun row hrow => (hforms row hrow).fill
  rw [List.map_cons] at hfilled hserialized ⊢
  obtain ⟨parts, hparts⟩ := Insert.exists_build_of_suit hfilled ((Insert.suit_fill_iff hnamed).mpr haccepts) hserialized
  simp only [hparts, bind, Except.bind, Model.query, hschema]
  exact ⟨_, rfl⟩

theorem refused_createEach (hgiven : given.items = .ok (rows.map .map)) (hne : rows ≠ [])
    (hnamed : ∀ row ∈ rows, row.Named) (hnot : ¬ model.Accepts rows) :
    ∃ why, (createEach given).query model schema = .error (.refused why) ∧ Insert.concernsColumns why = true := by
  rw [query_createEach hgiven (readAs_map _) hne]
  obtain ⟨first, later, rfl⟩ := List.exists_cons_of_ne_nil hne
  obtain ⟨hfirst, hlater⟩ := List.forall_mem_cons.mp hnamed
  have hlater' : ∀ row ∈ later.map (model.fill .creating), row.Named := by
    rw [List.forall_mem_map]
    exact fun row hrow => (hlater row hrow).fill model
  obtain ⟨why, hwhy, hconcerns⟩ := Insert.columnsOf_of_not_suit (hfirst.fill model) hlater'
    fun hsuit => hnot ((Insert.suit_fill_iff hnamed).mp hsuit)
  refine ⟨why, ?_, hconcerns⟩
  rw [List.map_cons]
  simp only [Insert.build, hwhy, Bound.unbound, bind, Except.bind]

/-- **What is accepted when several records are created at once.** Accepted are the rows that may be created together,
and no others; those are declined for their columns. What is written then are the columns of the first row and those
that the model fills in. -/
theorem createEach_accepts_iff {name : Option String} (hgiven : given.items = .ok (rows.map .map)) (hne : rows ≠ [])
    (hschema : Attribute.optionalText schema = .ok name) (hnamed : ∀ row ∈ rows, row.Named)
    (hforms : ∀ row ∈ rows, model.Serializes row) :
    ((∃ q, (createEach given).query model schema = .ok q) ↔ model.Accepts rows) ∧
    (¬ model.Accepts rows → ∃ why, (createEach given).query model schema = .error (.refused why) ∧
      Insert.concernsColumns why = true) ∧
    ∀ q, (createEach given).query model schema = .ok q → ∃ text tokens columns,
      q.build.sql = some text ∧ lex text = some tokens ∧
      names tokens = tableNames (.text model.table) schema ++ columns ∧
      ∀ column, column ∈ columns ↔
        (∃ first ∈ rows.head?, .text column ∈ first.map (·.1)) ∨ model.FillsIn column := by
  refine ⟨⟨?_, exists_createEach hgiven hne hschema hnamed hforms⟩, refused_createEach hgiven hne hnamed,
    fun q => columns_of_createEach hgiven hne hnamed⟩
  rintro ⟨q, hq⟩
  by_contra hnot
  obtain ⟨why, hwhy, -⟩ := refused_createEach hgiven hne hnamed hnot
  cases hq.symm.trans hwhy

def articles : Model where
  name := "Article"
  attributes :=
    [("id", ⟨.number, false, none, true, false, false, none⟩),
      ("title", ⟨.string, false, none, false, false, false, none⟩),
      ("tags", ⟨.json, true, some .null, false, false, false, none⟩)]

/-- Two rows of which the second has a column that is filled in for the first. -/
def twoArticles : List Record :=
  [[(.text "id", .int 1)], [(.text "tags", .list [.text "new"]), (.text "id", .int 2)]]

theorem createEach_accepts_of_articles :
    twoArticles ≠ [] ∧ (∀ row ∈ twoArticles, row.Named) ∧ (∀ row ∈ twoArticles, articles.Serializes row) ∧
    articles.Accepts twoArticles ∧
    ∃ q text tokens columns, (createEach (.list (twoArticles.map .map))).query articles .null = .ok q ∧
      q.build.sql = some text ∧ lex text = some tokens ∧ names tokens = ["article"] ++ columns ∧
      "id" ∈ columns ∧ "tags" ∈ columns ∧ "title" ∈ columns := by
  have hnamed : ∀ row ∈ twoArticles, row.Named := by
    intro row hrow v hv
    simp only [twoArticles, List.mem_cons, List.not_mem_nil, or_false] at hrow
    rcases hrow with rfl | rfl
    · exact ⟨"id", List.mem_singleton.mp hv⟩
    · simp only [List.map_cons, List.map_nil, List.mem_cons, List.not_mem_nil, or_false] at hv
      rcases hv with rfl | rfl
      · exact ⟨"tags", rfl⟩
      · exact ⟨"id", rfl⟩
  have hforms : ∀ row ∈ twoArticles, articles.Serializes row := by
    intro row hrow
    have hdefaulted : ∀ entry ∈ articles.attributes, row.has (.text entry.1) = false →
        ∀ v, entry.2.declaredDefault = some v → ∃ w, articles.serialize (.text entry.1) v = .ok w := by
      intro entry hentry _ v hv
      simp only [articles, List.mem_cons, List.not_mem_nil, or_false] at hentry
      rcases hentry with rfl | rfl | rfl
      · cases hv
      · cases hv
      · obtain rfl := Option.some.inj hv
        exact ⟨_, rfl⟩
    simp only [twoArticles, List.mem_cons, List.not_mem_nil, or_false] at hrow
    rcases hrow with rfl | rfl
    · refine ⟨?_, hdefaulted⟩
      intro entry hentry
      obtain rfl := List.mem_singleton.mp hentry
      exact ⟨_, rfl⟩
    · refine ⟨?_, hdefaulted⟩
      intro entry hentry
      simp only [List.mem_cons, List.not_mem_nil, or_false] at hentry
      rcases hentry with rfl | rfl <;> exact ⟨_, rfl⟩
  obtain ⟨q, hq⟩ : ∃ q, (createEach (.list (twoArticles.map .map))).query articles .null = .ok q := ⟨_, rfl⟩
  have hgiven : (Value.list (twoArticles.map .map)).items = .ok (twoArticles.map .map) := rfl
  have hschema : Attribute.optionalText .null = .ok none := rfl
  obtain ⟨haccepts, -, hwritten⟩ := createEach_accepts_iff hgiven (List.cons_ne_nil _ _) hschema hnamed hforms
  obtain ⟨text, tokens, columns, htext, hlex, hnames, hcolumns⟩ := hwritten q hq
  have htags : articles.FillsIn "tags" :=
    ⟨_, List.mem_cons_of_mem _ (List.mem_cons_of_mem _ List.mem_cons_self), rfl⟩
  have htitle : articles.FillsIn "title" := ⟨_, List.mem_cons_of_mem _ List.mem_cons_self, rfl⟩
  exact ⟨List.cons_ne_nil _ _, hnamed, hforms, haccepts.mp ⟨q, hq⟩, q, text, tokens, columns, hq, htext, hlex, hnames,
    (hcolumns "id").mpr (.inl ⟨_, rfl, List.mem_cons_self⟩), (hcolumns "tags").mpr (.inr htags),
    (hcolumns "title").mpr (.inr htitle)⟩

/-! ## One record -/

/-- What is sent to storage: the text and its arguments. -/
def sent (registry : Option Registry) (ms : List Query.Modifier) (q : Query) : Option String × List Value :=
  ((q.modifyEach registry ms).build.sql, (q.modifyEach registry ms).build.arguments)

/-- How an insertion of a record without any column is written, by itself and as the only one of several. -/
def defaultsSql : Sql := .blank :: keywords [.DEFAULT, .VALUES]

def nothingSql : Sql := [.blank, .blank, .keyword .VALUES, .blank]

theorem render_defaults_ne_nothing (before after : Sql) :
    (before ++ defaultsSql ++ after).render ≠ (before ++ nothingSql ++ after).render := by
  intro heq
  have hlength := congrArg String.length heq
  have hdefaults : defaultsSql.render.length = 15 := by decide
  have hnothing : nothingSql.render.length = 9 := by decide
  simp only [render_append, String.length_append, hdefaults, hnothing] at hlength
  omega

/-- One record, created by itself and as the only one of several: the queries are alike, and have the same text if there
is a column to write. -/
structure Twins (record : Record) (q q' : Query) : Prop where
  alike : Query.Alike q q'
  building : q.stage = .building
  arguments : q.arguments = q'.arguments
  fetching : q.fetching = q'.fetching
  returning : q.returning = q'.returning
  same : record ≠ [] → ∃ sql, q.sql = some sql ∧ q'.sql = some sql
  apart : record = [] → ∃ before, q.sql = some (before ++ defaultsSql) ∧ q'.sql = some (before ++ nothingSql)

/-- The two ways of creating one record fail alike, or they make twins. -/
theorem create_or_createEach (model : Model) (given schema : Value) :
    (∃ fault, (create given).query model schema = .error fault ∧
      (createEach (.list [given])).query model schema = .error fault) ∨
    ∃ entries q q', given.entries = .ok entries ∧ (create given).query model schema = .ok q ∧
      (createEach (.list [given])).query model schema = .ok q' ∧ Twins (model.fill .creating entries) q q' := by
  cases hentries : given.entries with
  | error fault =>
    refine .inl ⟨fault, ?_, ?_⟩
    · simp [query, Model.create, hentries, bind, Except.bind]
    · simp [query, Model.createEach, Value.items, hentries, bind, Except.bind]
  | ok entries =>
    have hrows : ReadAs [given] [entries] := .cons hentries .nil
    rw [query_createEach rfl hrows (List.cons_ne_nil _ _)]
    have hcreate : (create given).query model schema = model.create given schema := rfl
    rw [hcreate, Model.create, hentries]
    simp only [List.map_cons, List.map_nil, bind, Except.bind]
    cases hparts : (Insert.build model 0 (.list [.map (model.fill .creating entries)])).outcome with
    | error fault => exact .inl ⟨fault, rfl, rfl⟩
    | ok parts =>
      unfold Model.query
      cases Attribute.optionalText schema with
      | error problem => exact .inl ⟨_, rfl, rfl⟩
      | ok name =>
        obtain ⟨-, hwritten⟩ := @Insert.build_ok model (model.fill .creating entries) [] parts hparts
        refine .inr ⟨entries, _, _, rfl, rfl, rfl, ?_⟩
        refine
          { alike := ⟨rfl, rfl, rfl, rfl, rfl, rfl, rfl, rfl⟩
            building := rfl
            arguments := rfl
            fetching := rfl
            returning := rfl
            same := ?_
            apart := ?_ }
        · intro hsome
          rw [if_neg hsome] at hwritten
          rw [hwritten]
          exact ⟨_, rfl, rfl⟩
        · intro hnone
          rw [if_pos hnone] at hwritten
          rw [hwritten]
          refine ⟨model.insertInto schema, rfl, ?_⟩
          simp [Query.plain, Model.insertSql, nothingSql]

/-- What is sent is the text, what modifiers put behind it, and the arguments that were there before. -/
theorem sent_of_sql {q : Query} {sql : Sql} (hbuilding : q.stage = .building) (hsql : q.sql = some sql)
    (registry : Option Registry) (ms : List Query.Modifier) :
    sent registry ms q = (some (sql ++ (q.modifyEach registry ms).tail).render, q.arguments) := by
  obtain ⟨hwork, -⟩ := Query.sameWork_modifyEach registry hbuilding ms
  rw [sent, Query.build, Query.text?_of_sql (hwork.sql.trans hsql), hwork.arguments]
  rfl

namespace Twins

variable {record : Record} {q q' : Query}

/-- Modifiers put the same behind the texts of twins. -/
theorem tail_eq (h : Twins record q q') (registry : Option Registry) (ms : List Query.Modifier) :
    (q.modifyEach registry ms).tail = (q'.modifyEach registry ms).tail := by
  obtain ⟨hwork, hfetched⟩ := Query.sameWork_modifyEach registry h.building ms
  obtain ⟨hwork', hfetched'⟩ := Query.sameWork_modifyEach registry (h.alike.stage.symm.trans h.building) ms
  refine (h.alike.modifyEach registry ms).1.tail_eq ?_ ?_
  · rw [hfetched, hfetched', h.fetching]
  · rw [hwork.returning, hwork'.returning, h.returning]

theorem sent_eq_iff (h : Twins record q q') (registry : Option Registry) (ms : List Query.Modifier) :
    sent registry ms q = sent registry ms q' ↔ record ≠ [] := by
  have hbuilding' : q'.stage = .building := h.alike.stage.symm.trans h.building
  constructor
  · intro hsame hempty
    obtain ⟨before, hsql, hsql'⟩ := h.apart hempty
    rw [sent_of_sql h.building hsql, sent_of_sql hbuilding' hsql', ← h.tail_eq] at hsame
    exact render_defaults_ne_nothing _ _ (Option.some.inj (Prod.mk.inj hsame).1)
  · intro hsome
    obtain ⟨sql, hsql, hsql'⟩ := h.same hsome
    rw [sent_of_sql h.building hsql, sent_of_sql hbuilding' hsql', h.tail_eq, h.arguments]

end Twins

/-- **One record is created alike in both ways, exactly if there is a column to write**: one that is given, or one that
is filled in. (If either way fails, both do, in the same way.) -/
theorem create_eq_createEach_iff (model : Model) (given schema : Value) (registry : Option Registry)
    (ms : List Query.Modifier) :
    ((create given).query model schema).map (sent registry ms) =
      ((createEach (.list [given])).query model schema).map (sent registry ms) ↔
    ∀ q entries, (create given).query model schema = .ok q → given.entries = .ok entries →
      entries ≠ [] ∨ ∃ column, model.FillsIn column := by
  rcases create_or_createEach model given schema with ⟨fault, hq, hq'⟩ | ⟨entries, q, q', hentries, hq, hq', htwins⟩
  · rw [hq, hq']
    simp
  · have hcolumns : (entries ≠ [] ∨ ∃ column, model.FillsIn column) ↔ model.fill .creating entries ≠ [] := by
      rw [ne_eq, ne_eq, Model.fill_creating_eq_nil_iff, not_and_or, not_forall]
      simp only [not_not]
    rw [hq, hq', Except.map, Except.map, Except.ok.injEq, htwins.sent_eq_iff, ← hcolumns]
    constructor
    · intro h _ entries' _ hentries'
      obtain rfl := Except.ok.inj (hentries.symm.trans hentries')
      exact h
    · intro h
      exact h q entries rfl hentries

def counter : Model where
  name := "Counter"
  attributes := [("id", ⟨.number, false, none, true, false, false, none⟩)]

/-- **One record without columns is not created in the same way by itself and among several**: what is written for the
second is no statement. -/
theorem createEach_without_columns :
    ∃ q q', (create (.map [])).query counter .null = .ok q ∧
      (createEach (.list [.map []])).query counter .null = .ok q' ∧
      q.build.sql = some "INSERT INTO \"counter\" DEFAULT VALUES" ∧
      q'.build.sql = some "INSERT INTO \"counter\"  VALUES " ∧ q.build.sql ≠ q'.build.sql := by
  obtain ⟨q, hq, htext⟩ : ∃ q, (create (.map [])).query counter .null = .ok q ∧
      q.build.sql = some "INSERT INTO \"counter\" DEFAULT VALUES" := ⟨_, rfl, rfl⟩
  obtain ⟨q', hq', htext'⟩ : ∃ q, (createEach (.list [.map []])).query counter .null = .ok q ∧
      q.build.sql = some "INSERT INTO \"counter\"  VALUES " := ⟨_, rfl, rfl⟩
  refine ⟨q, q', hq, hq', htext, htext', ?_⟩
  rw [htext, htext']
  decide

end Operation

end ModelStore

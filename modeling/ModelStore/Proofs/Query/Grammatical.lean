import ModelStore.Proofs.Query.Calls
import ModelStore.Proofs.Sql.Grammar

/-!
# Which calls are statements

Modifiers are accepted by every query alike, and what is set of an order and of a limit is written behind the text
whatever the text is. But only statements that read have an order and a limit. So **the text of a call is a statement
if the call reads, or if no modifier sets an order or a limit; and else it is none** (`derivable_iff`). Of the rows that
are returned this is not so: a query knows of itself whether `RETURNING` may be written.

What is left out is the creation of several records, which is no statement either if there is no column to write.
-/

namespace ModelStore.Operation

open Sql Sql.Grammar
open Sorting (exists_of_bind_eq_ok)

variable {model : Model} {schema : Value} {op : Operation} {r r' : Reading}

/-! ## Parts -/

theorem grammar_table (qualified : Bool) : Grammar.Table (tableOutline qualified) := by
  cases qualified with
  | false => exact .plain
  | true => exact .qualified

theorem grammar_test (test : Test) : Predicate test.variant.outline := by
  cases test with
  | equals _ => exact .compared (by decide)
  | notEquals _ => exact .compared (by decide)
  | among _ => exact .among
  | notAmong _ => exact .not .among
  | isNull => exact .isNull
  | isNotNull => exact .isNotNull
  | compares comparison _ => cases comparison <;> exact .compared (by decide)

theorem grammar_conditions (conditions : List Condition) :
    Grammar.Conditions (clauseOutline (conditions.map fun c => c.test.variant)) := by
  cases conditions with
  | nil => exact .all
  | cons c rest =>
    apply Grammar.Conditions.those
    apply many_joined (by simp)
    intro part hpart
    rw [List.map_map, List.mem_map] at hpart
    obtain ⟨condition, -, rfl⟩ := hpart
    exact grammar_test condition.test

theorem grammar_clause (one qualified : Bool) (conditions : List Condition) :
    Grammar.Clause (whereOutline one qualified (conditions.map fun c => c.test.variant)) := by
  cases one with
  | false => exact .every (grammar_conditions conditions)
  | true =>
    unfold whereOutline singleOutline
    exact .one (grammar_table qualified) (grammar_conditions conditions)

theorem grammar_names {n : Nat} (hne : n ≠ 0) : Many (· = [.name ""]) (.mark .comma) n (commas n [.name ""]) :=
  many_replicate hne

theorem grammar_ordering (r : Reading) (schema : Value) : Grammar.Ordering (r.shape schema).ordering := by
  unfold Shape.ordering Reading.shape
  cases r.order with
  | none => exact .no
  | some order =>
    obtain ⟨column, direction⟩ := order
    cases direction with
    | none => exact .by
    | some direction =>
      cases direction with
      | ascending => exact .ascending
      | descending => exact .descending

theorem grammar_limiting (r : Reading) (schema : Value) : Grammar.Limiting (r.shape schema).limiting := by
  unfold Shape.limiting Reading.shape
  cases r.limit with
  | none => exact .no
  | some limit => exact .to limit

/-! ## Outlines -/

/-- One record is created at a time, and what is selected is not nothing. -/
structure Reading.Proper (r : Reading) : Prop where
  kind : r.kind ≠ .createEach
  rows : r.kind = .create → r.rows = 1
  selected : r.selected ≠ some []

theorem Reading.Proper.selection (h : r.Proper) : Selection (selectionOutline (r.selected.map List.length)) := by
  cases hselected : r.selected with
  | none => exact .all
  | some columns =>
    have hne : columns ≠ [] := fun hnil => h.selected (hnil ▸ hselected)
    exact .columns (grammar_names (by simpa using hne))

/-- What reads selects from a table. -/
theorem Reading.Proper.reads (h : r.Proper) (hreads : (r.shape schema).reads = true) :
    ∃ selection table clause, Selection selection ∧ Grammar.Table table ∧ Grammar.Clause clause ∧
      (r.shape schema).body = .keyword .SELECT :: selection ++ .keyword .FROM :: table ++ clause := by
  have htable : Grammar.Table (r.shape schema).table := grammar_table schema.holds
  have hclause (one : Bool) : Grammar.Clause ((r.shape schema).conditions one) :=
    grammar_clause one schema.holds r.conditions
  unfold Shape.reads at hreads
  unfold Shape.body
  split at hreads
  case h_1 hkind =>
    rw [hkind]
    exact ⟨_, _, _, h.selection, htable, hclause false, rfl⟩
  case h_2 hkind =>
    rw [hkind]
    exact ⟨_, _, _, h.selection, htable, hclause true, rfl⟩
  case h_3 hkind =>
    rw [hkind]
    refine ⟨[.mark .star], _, _, .all, htable, hclause false, ?_⟩
    simp [Shape.updating, of_decide_eq_true hreads]
  case h_4 hkind =>
    rw [hkind]
    refine ⟨[.mark .star], _, _, .all, htable, hclause true, ?_⟩
    simp [Shape.updating, of_decide_eq_true hreads]
  case h_5 => cases hreads

theorem Reading.Proper.updates (hcolumns : (r.shape schema).columns ≠ 0) (one : Bool) :
    Write ((r.shape schema).updating one) := by
  unfold Shape.updating
  rw [if_neg hcolumns]
  exact .update (grammar_table schema.holds) (many_replicate hcolumns) (grammar_clause one schema.holds r.conditions)

/-- What does not read writes. -/
theorem Reading.Proper.writes (h : r.Proper) (hreads : (r.shape schema).reads = false) :
    Write (r.shape schema).body := by
  have htable : Grammar.Table (r.shape schema).table := grammar_table schema.holds
  have hclause (one : Bool) : Grammar.Clause ((r.shape schema).conditions one) :=
    grammar_clause one schema.holds r.conditions
  have hkind : (r.shape schema).kind = r.kind := rfl
  unfold Shape.reads at hreads
  unfold Shape.body
  cases hr : r.kind with
  | createEach => exact absurd hr h.kind
  | create =>
    have hrows : (r.shape schema).rows = 1 := h.rows hr
    rw [hkind, hr, hrows]
    dsimp only
    split
    case isTrue => exact .insertDefaults htable
    case isFalse hcolumns =>
      have hinsert := Write.insert htable (grammar_names hcolumns) (many_replicate hcolumns)
      simpa [valuesOutline, commas, joined] using hinsert
  | find =>
    rw [hkind, hr] at hreads
    cases hreads
  | findOne =>
    rw [hkind, hr] at hreads
    cases hreads
  | update =>
    rw [hkind, hr] at hreads ⊢
    exact updates (of_decide_eq_false hreads) false
  | updateOne =>
    rw [hkind, hr] at hreads ⊢
    exact updates (of_decide_eq_false hreads) true
  | destroy =>
    rw [hkind, hr]
    exact .delete htable (hclause false)
  | destroyOne =>
    rw [hkind, hr]
    exact .delete htable (hclause true)

theorem Reading.Proper.statement_of_reads (h : r.Proper) (hreads : (r.shape schema).reads = true) :
    Grammar.Statement (r.shape schema).outline := by
  obtain ⟨selection, table, clause, hselection, htable, hclause, hbody⟩ := h.reads hreads
  have hread := Grammar.Statement.read hselection htable hclause (grammar_ordering r schema) (grammar_limiting r schema)
  unfold Shape.outline Shape.returning
  rw [hreads, hbody]
  simpa using hread

theorem Reading.Proper.statement_of_writes (h : r.Proper) (hreads : (r.shape schema).reads = false)
    (horder : r.order = none) (hlimit : r.limit = none) : Grammar.Statement (r.shape schema).outline := by
  have hreturning : Returning (r.shape schema).returning := by
    unfold Shape.returning
    split
    · exact .rows
    · exact .no
  have hordering : (r.shape schema).ordering = [] := by simp [Shape.ordering, Reading.shape, horder]
  have hlimiting : (r.shape schema).limiting = [] := by simp [Shape.limiting, Reading.shape, hlimit]
  unfold Shape.outline
  rw [hordering, hlimiting, List.append_nil, List.append_nil]
  exact .write (h.writes hreads) hreturning

/-- What writes begins with another word than what reads, so as a statement it has no order and no limit. -/
theorem Reading.Proper.unordered_of_writes (h : r.Proper) (hreads : (r.shape schema).reads = false)
    (hstatement : Grammar.Statement (r.shape schema).outline) : r.order = none ∧ r.limit = none := by
  obtain ⟨word, hword, hhead⟩ := (h.writes hreads).exists_head
  have hfirst : (r.shape schema).outline.head? = some (.keyword word) := by
    unfold Shape.outline
    simp only [List.append_assoc, List.head?_append, hhead, Option.some_or]
  have hunordered : Unordered (r.shape schema).outline := by
    apply hstatement.reads_or_unordered.resolve_left
    intro hselect
    cases hfirst.symm.trans hselect
    exact hword rfl
  unfold Shape.outline at hunordered
  obtain ⟨hunlimited, hlimiting⟩ := unordered_append.mp hunordered
  obtain ⟨-, hordering⟩ := unordered_append.mp hunlimited
  constructor
  · cases horder : r.order with
    | none => rfl
    | some order => simp [Shape.ordering, Reading.shape, horder, orderOutline] at hordering
  · cases hlimit : r.limit with
    | none => rfl
    | some limit => simp [Shape.limiting, Reading.shape, hlimit] at hlimiting

/-- **An outline is that of a statement if it reads, or has no order and no limit.** -/
theorem Reading.Proper.statement_iff (h : r.Proper) :
    Grammar.Statement (r.shape schema).outline ↔
      (r.shape schema).reads = true ∨ r.order = none ∧ r.limit = none := by
  cases hreads : (r.shape schema).reads with
  | true => exact iff_of_true (h.statement_of_reads hreads) (.inl rfl)
  | false =>
    constructor
    · intro hstatement
      exact .inr (h.unordered_of_writes hreads hstatement)
    · rintro (hread | ⟨horder, hlimit⟩)
      · cases hread
      · exact h.statement_of_writes hreads horder hlimit

/-! ## Calls -/

/-- Whether an operation reads and does nothing else: a search, or an update that has nothing to set. -/
def Reads (model : Model) : Operation → Prop
  | find _ _ _ _ | findOne _ _ => True
  | update _ given | updateOne _ given => ∃ entries, given.entries = .ok entries ∧ model.fill .changing entries = []
  | _ => False

/-- What holds has items, if it can have any. -/
theorem items_ne_nil {v : Value} {items : List Value} (hholds : v.holds = true) (h : v.items = .ok items) :
    items ≠ [] := by
  cases v with
  | text s =>
    obtain rfl := Except.ok.inj h
    simpa [Value.holds] using hholds
  | bytes bs =>
    obtain rfl := Except.ok.inj h
    simpa [Value.holds] using hholds
  | list vs =>
    obtain rfl := Except.ok.inj h
    simpa [Value.holds] using hholds
  | tuple vs =>
    obtain rfl := Except.ok.inj h
    simpa [Value.holds] using hholds
  | map es =>
    obtain rfl := Except.ok.inj h
    simpa [Value.holds] using hholds
  | _ => cases h

theorem selectedColumns_ne {select : Value} {selected : Option (List Value)}
    (h : selectedColumns select = .ok selected) : selected ≠ some [] := by
  unfold selectedColumns at h
  split at h
  case isTrue =>
    obtain rfl := Except.ok.inj h
    simp
  case isFalse hholds =>
    cases hitems : select.items with
    | error fault =>
      rw [hitems] at h
      cases h
    | ok items =>
      rw [hitems] at h
      obtain rfl := Except.ok.inj h
      intro hnil
      exact items_ne_nil (by simpa using hholds) hitems (Option.some.inj hnil)

/-- An update reads if there is nothing to set. -/
theorem reads_updating {given : Value} {entries : List (Value × Value)} (h : given.entries = .ok entries) :
    ((model.fill .changing entries).map (·.1)).length = 0 ↔
      ∃ entries, given.entries = .ok entries ∧ model.fill .changing entries = [] := by
  rw [List.length_map, List.length_eq_zero_iff]
  constructor
  · intro hnil
    exact ⟨entries, h, hnil⟩
  · rintro ⟨entries', h', hnil⟩
    obtain rfl := Except.ok.inj (h.symm.trans h')
    exact hnil

/-- What is known of the reading of an operation that does not create several records. -/
theorem proper_of_reading (hone : ∀ given, op ≠ .createEach given) (h : op.reading model = .ok r) :
    r.Proper ∧ ((r.shape schema).reads = true ↔ op.Reads model) ∧
      (¬ op.Reads model → r.order = none ∧ r.limit = none) := by
  cases op with
  | createEach given => exact absurd rfl (hone given)
  | create given =>
    obtain ⟨entries, -, h⟩ := exists_of_bind_eq_ok h
    obtain rfl := Except.ok.inj h
    exact ⟨⟨by simp, fun _ => rfl, by simp⟩, by simp [Reading.shape, Shape.reads, Reads], fun _ => ⟨rfl, rfl⟩⟩
  | find criteria select sort limit =>
    obtain ⟨selected, hselected, h⟩ := exists_of_bind_eq_ok h
    obtain ⟨conditions, -, h⟩ := exists_of_bind_eq_ok h
    obtain ⟨order, -, h⟩ := exists_of_bind_eq_ok h
    obtain ⟨most, -, h⟩ := exists_of_bind_eq_ok h
    obtain rfl := Except.ok.inj h
    exact ⟨⟨by simp, by simp, selectedColumns_ne hselected⟩, iff_of_true rfl trivial,
      fun hreads => absurd trivial hreads⟩
  | findOne criteria select =>
    obtain ⟨selected, hselected, h⟩ := exists_of_bind_eq_ok h
    obtain ⟨conditions, -, h⟩ := exists_of_bind_eq_ok h
    obtain rfl := Except.ok.inj h
    exact ⟨⟨by simp, by simp, selectedColumns_ne hselected⟩, iff_of_true rfl trivial,
      fun hreads => absurd trivial hreads⟩
  | update criteria given =>
    obtain ⟨entries, hentries, h⟩ := exists_of_bind_eq_ok h
    obtain ⟨conditions, -, h⟩ := exists_of_bind_eq_ok h
    obtain rfl := Except.ok.inj h
    exact ⟨⟨by simp, by simp, by simp⟩, decide_eq_true_iff.trans (reads_updating hentries), fun _ => ⟨rfl, rfl⟩⟩
  | updateOne criteria given =>
    obtain ⟨entries, hentries, h⟩ := exists_of_bind_eq_ok h
    obtain ⟨conditions, -, h⟩ := exists_of_bind_eq_ok h
    obtain rfl := Except.ok.inj h
    exact ⟨⟨by simp, by simp, by simp⟩, decide_eq_true_iff.trans (reads_updating hentries), fun _ => ⟨rfl, rfl⟩⟩
  | destroy criteria =>
    obtain ⟨conditions, -, h⟩ := exists_of_bind_eq_ok h
    obtain rfl := Except.ok.inj h
    exact ⟨⟨by simp, by simp, by simp⟩, by simp [Reading.shape, Shape.reads, Reads], fun _ => ⟨rfl, rfl⟩⟩
  | destroyOne criteria =>
    obtain ⟨conditions, -, h⟩ := exists_of_bind_eq_ok h
    obtain rfl := Except.ok.inj h
    exact ⟨⟨by simp, by simp, by simp⟩, by simp [Reading.shape, Shape.reads, Reads], fun _ => ⟨rfl, rfl⟩⟩

/-- A modifier of a reading leaves its body alone, and only some set an order or a limit. -/
theorem modified_ok {m : Query.Modifier} (h : r.modified m = .ok r') :
    ∃ fetching order limit, r' = { r with fetching := fetching, order := order, limit := limit } ∧
      (order = none ∧ limit = none ↔ (r.order = none ∧ r.limit = none) ∧ m.kind ≠ .sort ∧ m.kind ≠ .limit) := by
  cases m with
  | fetch =>
    obtain rfl := Except.ok.inj h
    exact ⟨_, _, _, rfl, by simp [Query.Modifier.kind]⟩
  | limit v =>
    obtain ⟨limit, -, h⟩ := exists_of_bind_eq_ok h
    obtain rfl := Except.ok.inj h
    exact ⟨_, _, _, rfl, by simp [Query.Modifier.kind]⟩
  | sort v =>
    obtain ⟨order, -, h⟩ := exists_of_bind_eq_ok h
    obtain rfl := Except.ok.inj h
    exact ⟨_, _, _, rfl, by simp [Query.Modifier.kind]⟩
  | populate name =>
    obtain rfl := Except.ok.inj h
    exact ⟨_, _, _, rfl, by simp [Query.Modifier.kind]⟩
  | connection c =>
    obtain rfl := Except.ok.inj h
    exact ⟨_, _, _, rfl, by simp [Query.Modifier.kind]⟩
  | intercept kind offer =>
    obtain rfl := Except.ok.inj h
    exact ⟨_, _, _, rfl, by simp [Query.Modifier.kind]⟩

theorem modifiedAll_ok {ms : List Query.Modifier} (h : r.modifiedAll ms = .ok r') :
    ∃ fetching order limit, r' = { r with fetching := fetching, order := order, limit := limit } ∧
      (order = none ∧ limit = none ↔
        (r.order = none ∧ r.limit = none) ∧ ∀ m ∈ ms, m.kind ≠ .sort ∧ m.kind ≠ .limit) := by
  induction ms generalizing r with
  | nil =>
    obtain rfl := Except.ok.inj h
    exact ⟨_, _, _, rfl, by simp⟩
  | cons m rest ih =>
    obtain ⟨next, hnext, hrest⟩ := exists_of_bind_eq_ok h
    obtain ⟨fetching, order, limit, rfl, hfirst⟩ := modified_ok hnext
    obtain ⟨fetching', order', limit', rfl, hlater⟩ := ih hrest
    exact ⟨_, _, _, rfl, by rw [hlater, hfirst, List.forall_mem_cons, and_assoc]⟩

/-- **The text of a call is derivable as a statement exactly if the call reads, or if no modifier sets an order or a
limit.** -/
theorem derivable_iff {registry : Option Registry} {ms : List Query.Modifier} {made q : Query} {text : String}
    (hone : ∀ given, op ≠ .createEach given) (hmade : op.query model schema = .ok made)
    (hmodified : (Query.performAll registry 0 ms).run made = (none, q)) (htext : q.build.sql = some text) :
    ∃ tokens, lex text = some tokens ∧
      (Grammar.Statement (outline tokens) ↔
        op.Reads model ∨ ∀ m ∈ ms, m.kind ≠ .sort ∧ m.kind ≠ .limit) := by
  obtain ⟨first, hfirst, hwrites⟩ := writes_of_query hmade
  obtain ⟨r, hmore, hwrites⟩ := hwrites.modifiedAll hmodified
  obtain ⟨sql, hsql, rfl⟩ := Option.map_eq_some_iff.mp htext
  obtain ⟨tokens, hlexed, -, -, houtline⟩ := (says_text hwrites hsql).lexed
  obtain ⟨hproper, hreads, hunordered⟩ := @proper_of_reading model schema op first hone hfirst
  obtain ⟨fetching, order, limit, rfl, hset⟩ := modifiedAll_ok hmore
  have hproper' : Reading.Proper { first with fetching := fetching, order := order, limit := limit } :=
    ⟨hproper.kind, hproper.rows, hproper.selected⟩
  refine ⟨tokens, hlexed, ?_⟩
  rw [houtline, hproper'.statement_iff]
  show (first.shape schema).reads = true ∨ (order = none ∧ limit = none) ↔ _
  rw [hreads, hset]
  constructor
  · rintro (hread | ⟨-, hms⟩)
    · exact .inl hread
    · exact .inr hms
  · rintro (hread | hms)
    · exact .inl hread
    · by_cases hread : op.Reads model
      · exact .inl hread
      · exact .inr ⟨hunordered hread, hms⟩

/-- An update of all rows. -/
def nameAll : Operation := update .null (.map [(.text "name", .text "a")])

theorem derivable_of_fetch :
    (∀ given, nameAll ≠ .createEach given) ∧
    ∃ made q tokens, nameAll.query notes .null = .ok made ∧
      (Query.performAll (some ⟨[]⟩) 0 [.fetch]).run made = (none, q) ∧
      q.build.sql = some "UPDATE \"notes\" SET \"name\" = $1 RETURNING *" ∧
      lex "UPDATE \"notes\" SET \"name\" = $1 RETURNING *" = some tokens ∧ Grammar.Statement (outline tokens) := by
  have hone : ∀ given, nameAll ≠ .createEach given := by
    intro given
    simp [nameAll]
  obtain ⟨made, hmade⟩ : ∃ made, nameAll.query notes .null = .ok made := ⟨_, rfl⟩
  obtain ⟨q, hmodified, htext⟩ : ∃ q, (Query.performAll (some ⟨[]⟩) 0 [.fetch]).run made = (none, q) ∧
      q.build.sql = some "UPDATE \"notes\" SET \"name\" = $1 RETURNING *" := by
    obtain rfl := Except.ok.inj hmade
    exact ⟨_, rfl, rfl⟩
  obtain ⟨tokens, hlex, hiff⟩ := derivable_iff hone hmade hmodified htext
  refine ⟨hone, made, q, tokens, hmade, hmodified, htext, hlex, ?_⟩
  apply hiff.mpr
  right
  intro m hm
  obtain rfl := List.mem_singleton.mp hm
  decide

/-- **An update that is ordered is not a statement**, and it is built all the same. -/
theorem ordered_update_is_not_derivable :
    ∃ made q tokens, nameAll.query notes .null = .ok made ∧
      (Query.performAll (some ⟨[]⟩) 0 [.sort (.text "id")]).run made = (none, q) ∧
      q.build.sql = some "UPDATE \"notes\" SET \"name\" = $1 ORDER BY \"id\"" ∧
      lex "UPDATE \"notes\" SET \"name\" = $1 ORDER BY \"id\"" = some tokens ∧
      ¬ Grammar.Statement (outline tokens) := by
  obtain ⟨made, hmade⟩ : ∃ made, nameAll.query notes .null = .ok made := ⟨_, rfl⟩
  obtain ⟨q, hmodified, htext⟩ : ∃ q, (Query.performAll (some ⟨[]⟩) 0 [.sort (.text "id")]).run made = (none, q) ∧
      q.build.sql = some "UPDATE \"notes\" SET \"name\" = $1 ORDER BY \"id\"" := by
    obtain rfl := Except.ok.inj hmade
    exact ⟨_, rfl, rfl⟩
  obtain ⟨first, hfirst, hwrites⟩ := writes_of_query hmade
  obtain ⟨r, hmore, hwrites⟩ := hwrites.modifiedAll hmodified
  obtain rfl := Except.ok.inj hfirst
  obtain rfl := Except.ok.inj hmore
  obtain ⟨sql, hsql, hrendered⟩ := Option.map_eq_some_iff.mp htext
  obtain ⟨tokens, hlex, -, -, houtline⟩ := (says_text hwrites hsql).lexed
  rw [hrendered] at hlex
  refine ⟨made, q, tokens, hmade, hmodified, htext, hlex, ?_⟩
  intro hstatement
  rw [houtline] at hstatement
  rcases hstatement.reads_or_unordered with hselect | hunordered
  · exact absurd hselect (by decide)
  · exact absurd hunordered.order (by decide)

end ModelStore.Operation

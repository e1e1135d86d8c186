import ModelStore.Proofs.Query.Translation

/-!
# Queries that are alike

A modifier looks at the model, the schema and the stage of a query, and sets one thing. What the query is to do, its
text and arguments and what is made of the answer, it neither looks at nor changes (`untouched_modifyEach`). So
**two queries that are alike in what modifiers look at and set accept the same modifiers and refuse the same ones, and
stay alike** (`Alike.modifyEach`), whatever each of them is to do.
-/

namespace ModelStore.Query

variable {registry : Option Registry} {q q' r : Query}

/-- What becomes of modifiers that a caller applies one after the other, going on after one that is refused: nothing
more to say, or why it was refused. -/
def refusals (registry : Option Registry) (q : Query) : List Modifier → List (Option Fault)
  | [] => []
  | m :: rest => match q.modify registry m with
    | .ok q => none :: refusals registry q rest
    | .error fault => some fault :: refusals registry q rest

theorem modifyEach_cons (q : Query) (m : Modifier) (rest : List Modifier) :
    q.modifyEach registry (m :: rest) = match q.modify registry m with
      | .ok q => q.modifyEach registry rest
      | .error _ => q.modifyEach registry rest := by
  rw [modifyEach, List.foldl_cons]
  cases q.modify registry m <;> rfl

/-! ## What modifiers do not touch -/

/-- The same is to be done: the text, what is read in its place, the arguments, and what is made of the answer. -/
structure SameWork (q q' : Query) : Prop where
  sql : q'.sql = q.sql
  lookup : q'.lookup = q.lookup
  arguments : q'.arguments = q.arguments
  returning : q'.returning = q.returning
  mode : q'.mode = q.mode
  fetchMode : q'.fetchMode = q.fetchMode
  single : q'.single = q.single

theorem SameWork.refl (q : Query) : SameWork q q := ⟨rfl, rfl, rfl, rfl, rfl, rfl, rfl⟩

theorem SameWork.symm (h : SameWork q q') : SameWork q' q :=
  ⟨h.sql.symm, h.lookup.symm, h.arguments.symm, h.returning.symm, h.mode.symm, h.fetchMode.symm, h.single.symm⟩

theorem SameWork.trans (h : SameWork q q') (h' : SameWork q' r) : SameWork q r :=
  ⟨h'.sql.trans h.sql, h'.lookup.trans h.lookup, h'.arguments.trans h.arguments, h'.returning.trans h.returning,
    h'.mode.trans h.mode, h'.fetchMode.trans h.fetchMode, h'.single.trans h.single⟩

/-- Whether a modifier asks for the results. -/
def Modifier.fetches : Modifier → Bool
  | fetch => true
  | _ => false

theorem any_fetches_iff {ms : List Modifier} : ms.any Modifier.fetches = true ↔ .fetch ∈ ms := by
  rw [List.any_eq_true]
  constructor
  · rintro ⟨m, hmem, hfetches⟩
    cases m with
    | fetch => exact hmem
    | _ => cases hfetches
  · intro hmem
    exact ⟨.fetch, hmem, rfl⟩

theorem sameWork_apply {m : Modifier} (h : m.apply registry q = .ok q') :
    SameWork q q' ∧ q'.fetching = (q.fetching || m.fetches) := by
  cases makes_of_apply h with
  | fetch => exact ⟨⟨rfl, rfl, rfl, rfl, rfl, rfl, rfl⟩, (Bool.or_true _).symm⟩
  | _ => exact ⟨⟨rfl, rfl, rfl, rfl, rfl, rfl, rfl⟩, (Bool.or_false _).symm⟩

/-- **Modifiers do not touch what is to be done**, and results are fetched if one of them says so. -/
theorem sameWork_modifyEach (registry : Option Registry) (h : q.stage = .building) (ms : List Modifier) :
    SameWork q (q.modifyEach registry ms) ∧
      (q.modifyEach registry ms).fetching = (q.fetching || ms.any Modifier.fetches) := by
  induction ms generalizing q with
  | nil => exact ⟨.refl q, (Bool.or_false _).symm⟩
  | cons m rest ih =>
    have happly : q.modify registry m = m.apply registry q := modify_of_building h m
    rw [modifyEach_cons]
    split
    case h_1 q' hmodify =>
      obtain ⟨hwork, hfetching⟩ := sameWork_apply (happly.symm.trans hmodify)
      obtain ⟨hwork', hfetching'⟩ := ih (Life.stage_of_modify hmodify).2
      refine ⟨hwork.trans hwork', ?_⟩
      rw [hfetching', hfetching, List.any_cons, Bool.or_assoc]
    case h_2 fault hrefused =>
      have hfetches : m.fetches = false := by
        cases m with
        | fetch => cases happly.symm.trans hrefused
        | _ => rfl
      obtain ⟨hwork, hfetching⟩ := ih h
      refine ⟨hwork, ?_⟩
      rw [hfetching, List.any_cons, hfetches, Bool.false_or]

/-! ## What follows the text of a query -/

/-- What is written behind the text: the rows that are returned, the order and the limit. -/
def tail (q : Query) : Sql :=
  (if q.fetching && q.returning then [.blank, .keyword .RETURNING, .blank, .mark .star] else [])
    ++ q.orderSql ++ q.limitSql

theorem text?_of_sql {sql : Sql} (h : q.sql = some sql) : q.text? = some (sql ++ q.tail) := by
  unfold text? body? tail
  rw [h]
  simp only [Option.map_some]
  split
  · simp only [List.append_assoc]
  · simp only [List.append_assoc, List.nil_append]

/-! ## Alike -/

/-- Alike in all that modifiers look at, and in all that they set except whether results are fetched. -/
structure Alike (q q' : Query) : Prop where
  model : q.model = q'.model
  schema : q.schema = q'.schema
  stage : q.stage = q'.stage
  limit : q.limit = q'.limit
  order : q.order = q'.order
  connection : q.connection = q'.connection
  population : q.population = q'.population
  interceptors : q.interceptors = q'.interceptors

namespace Alike

theorem plan (h : Alike q q') (registry : Option Registry) (name : Value) :
    q.plan registry name = q'.plan registry name := by
  unfold Query.plan
  rw [h.model, h.schema]

/-- What is read of a modifier and then set is read and set in both. -/
theorem set {α : Type} (put : Query → α → Query) {read read' : Except Fault α} (hsame : read = read')
    (hput : ∀ x, Alike (put q x) (put q' x)) :
    (∃ r r', (read >>= fun x => .ok (put q x)) = .ok r ∧ (read' >>= fun x => .ok (put q' x)) = .ok r' ∧ Alike r r') ∨
      ∃ fault, (read >>= fun x => .ok (put q x)) = .error fault ∧
        (read' >>= fun x => .ok (put q' x)) = .error fault := by
  subst hsame
  cases read with
  | error fault => exact .inr ⟨fault, rfl, rfl⟩
  | ok x => exact .inl ⟨_, _, rfl, rfl, hput x⟩

/-- **A modifier is accepted by both or refused by both**, for the same reason. -/
theorem apply (h : Alike q q') (registry : Option Registry) (m : Modifier) :
    (∃ r r', m.apply registry q = .ok r ∧ m.apply registry q' = .ok r' ∧ Alike r r') ∨
      ∃ fault, m.apply registry q = .error fault ∧ m.apply registry q' = .error fault := by
  cases m with
  | fetch => exact .inl ⟨_, _, rfl, rfl, { h with }⟩
  | limit v => exact set (fun q limit => { q with limit := some limit }) rfl fun _ => { h with limit := rfl }
  | sort v => exact set (fun q order => { q with order := some order }) rfl fun _ => { h with order := rfl }
  | populate name =>
    exact set (fun q plan => { q with population := some plan }) (h.plan registry name) fun _ =>
      { h with population := rfl }
  | connection c => exact .inl ⟨_, _, rfl, rfl, { h with connection := rfl }⟩
  | intercept kind offer =>
    refine set (fun q handler =>
      { q with interceptors := intercepting q.interceptors handler (Violation.codesOf kind) }) rfl fun handler =>
        { h with interceptors := ?_ }
    rw [h.interceptors]

theorem modify (h : Alike q q') (registry : Option Registry) (m : Modifier) :
    (∃ r r', q.modify registry m = .ok r ∧ q'.modify registry m = .ok r' ∧ Alike r r') ∨
      ∃ fault, q.modify registry m = .error fault ∧ q'.modify registry m = .error fault := by
  by_cases hstage : q.stage = .building
  · rw [modify_of_building hstage, modify_of_building (h.stage.symm.trans hstage)]
    exact h.apply registry m
  · refine .inr ⟨_, modify_of_started hstage registry m, ?_⟩
    rw [modify_of_started (fun hbuilding => hstage (h.stage.trans hbuilding)), h.stage]

/-- **Queries that are alike stay alike**, and the same modifiers are refused. -/
theorem modifyEach (h : Alike q q') (registry : Option Registry) (ms : List Modifier) :
    Alike (q.modifyEach registry ms) (q'.modifyEach registry ms) ∧
      q.refusals registry ms = q'.refusals registry ms := by
  induction ms generalizing q q' with
  | nil => exact ⟨h, rfl⟩
  | cons m rest ih =>
    rw [modifyEach_cons, modifyEach_cons, refusals, refusals]
    rcases h.modify registry m with ⟨r, r', hr, hr', halike⟩ | ⟨fault, hrefused, hrefused'⟩
    · obtain ⟨hafter, hsame⟩ := ih halike
      rw [hr, hr']
      exact ⟨hafter, congrArg (none :: ·) hsame⟩
    · obtain ⟨hafter, hsame⟩ := ih h
      rw [hrefused, hrefused']
      exact ⟨hafter, congrArg (some fault :: ·) hsame⟩

theorem tail_eq (h : Alike q q') (hfetching : q.fetching = q'.fetching) (hreturning : q.returning = q'.returning) :
    q.tail = q'.tail := by
  unfold tail orderSql limitSql
  rw [hfetching, hreturning, h.order, h.limit]

/-- Queries that are alike and have the same body have the same text. -/
theorem text?_eq (h : Alike q q') (hbody : q.body? = q'.body?) : q.text? = q'.text? := by
  unfold text? orderSql limitSql
  rw [hbody, h.order, h.limit]

theorem build_eq (h : Alike q q') (hbody : q.body? = q'.body?) (harguments : q.arguments = q'.arguments)
    (hmode : q.finalMode = q'.finalMode) (hsingle : q.single = q'.single) : q.build = q'.build := by
  unfold build
  rw [h.text?_eq hbody, harguments, h.model, hmode, hsingle, h.population, h.interceptors, h.connection]

end Alike

end ModelStore.Query

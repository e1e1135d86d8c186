import Mathlib.Data.List.Basic
import ModelStore.Proofs.Query.Alike
import ModelStore.Query.Change

/-!
# Modifiers in any order

Modifiers change a query in place, and may fail half-way. **One that is refused has changed nothing**, since each looks
at all it was given before it sets anything (`result_perform`). Whether it is refused is a matter of what it was given
and of the model and the registry, which no modifier changes; so a modifier is refused among others exactly if it would
have been refused alone (`refusals_eq`).

Each modifier has its own `Setting`, and those for native codes have one for each code. Of every setting **the last
modifier that was accepted decides**, as if it were the only one (`agree_modifyEach`): a modifier makes the same of its
own setting whatever the query it is applied to, and leaves the others alone. So what comes of many modifiers does not
depend on how those of different kinds are mixed (`modifiers_commute`).

Handlers that are set for different codes in a different order are the same handlers, but not the same list of them:
`Statement.Same` looks at a statement's handlers code by code. The list itself is the same if the calls of `intercept`
keep their order.
-/

namespace ModelStore

/-- The same statement, whatever the order in which its handlers were set. -/
structure Statement.Same (s s' : Statement) : Prop where
  sql : s.sql = s'.sql
  arguments : s.arguments = s'.arguments
  model : s.model = s'.model
  mode : s.mode = s'.mode
  single : s.single = s'.single
  population : s.population = s'.population
  handler : ∀ code, s.handler? code = s'.handler? code
  connection : s.connection = s'.connection

namespace Query

open Change
open Sorting (exists_of_bind_eq_ok)

variable {registry : Option Registry} {q q' r r' : Query} {m : Modifier}

/-! ## In place -/

/-- What is looked at first and set then. -/
theorem Change.result_read {α : Type} (read : Except Fault α) (put : α → Query → Query) (q : Query) :
    (do let x ← liftM read; setting (put x) : Change Unit).result q =
      match (read >>= fun x => .ok (put x q) : Except Fault Query) with
      | .ok q' => (.ok (), q')
      | .error fault => (.error fault, q) := by
  rw [result_bind, result_lift]
  cases read <;> rfl

theorem Change.result_codes (handler : Handler) (codes : List String) (q : Query) :
    (codes.forM fun code => setting fun q => { q with interceptors := q.interceptors.set code handler }).result q =
      (.ok (), { q with interceptors := intercepting q.interceptors handler codes }) := by
  induction codes generalizing q with
  | nil => rfl
  | cons code rest ih => exact ih { q with interceptors := q.interceptors.set code handler }

/-- **A modifier is applied as a whole, or not at all.** -/
theorem result_perform (registry : Option Registry) (m : Modifier) (q : Query) :
    (m.perform registry).result q = match q.modify registry m with
      | .ok q' => (.ok (), q')
      | .error fault => (.error fault, q) := by
  unfold Modifier.perform modify
  rw [result_bind, result_get]
  dsimp only
  rw [result_bind, result_lift]
  cases q.requireBuilding with
  | error fault => rfl
  | ok _ =>
    cases m with
    | fetch => rfl
    | limit v => exact result_read (parseLimit v) (fun limit q => { q with limit := some limit }) q
    | sort v => exact result_read (Order.parse v) (fun order q => { q with order := some order }) q
    | populate name => exact result_read (q.plan registry name) (fun plan q => { q with population := some plan }) q
    | connection c => rfl
    | intercept kind offer =>
      dsimp only
      rw [result_bind, result_lift]
      simp only [Modifier.apply]
      cases offer.check with
      | error fault => rfl
      | ok handler => exact result_codes handler (Violation.codesOf kind) q

theorem eq_of_refused {fault : Fault} (h : (m.perform registry).result q = (.error fault, q')) : q' = q := by
  rw [result_perform] at h
  cases hmodify : q.modify registry m with
  | ok made =>
    rw [hmodify] at h
    cases (Prod.mk.inj h).1
  | error why =>
    rw [hmodify] at h
    exact (Prod.mk.inj h).2.symm

theorem refusal_perform (registry : Option Registry) (m : Modifier) (q : Query) :
    (m.perform registry).refusal q = faultOf? (q.modify registry m) := by
  rw [Change.refusal, result_perform]
  cases q.modify registry m <;> rfl

theorem performAll_cons (registry : Option Registry) (m : Modifier) (rest : List Modifier) (q : Query) (place : Nat) :
    (performAll registry place (m :: rest)).run q = match q.modify registry m with
      | .ok q' => (performAll registry (place + 1) rest).run q'
      | .error fault => (some (place, fault), q) := by
  rw [performAll, run_bind, result_perform]
  cases q.modify registry m <;> rfl

theorem afterEach_cons (registry : Option Registry) (m : Modifier) (rest : List Modifier) (q : Query) :
    afterEach registry (m :: rest) q =
      ((m.perform registry).refusal q :: (afterEach registry rest ((m.perform registry).result q).2).1,
        (afterEach registry rest ((m.perform registry).result q).2).2) := by
  rw [afterEach, performEach, run_bind, StateT.run_bind]
  rfl

theorem afterEach_eq (registry : Option Registry) (ms : List Modifier) (q : Query) :
    afterEach registry ms q = (q.refusals registry ms, q.modifyEach registry ms) := by
  induction ms generalizing q with
  | nil => rfl
  | cons m rest ih =>
    rw [afterEach_cons, refusal_perform, result_perform, refusals, modifyEach_cons]
    cases q.modify registry m with
    | ok made =>
      dsimp only
      rw [ih]
      rfl
    | error fault =>
      dsimp only
      rw [ih]
      rfl

/-! ## What a modifier is refused for -/

/-- What no modifier changes of a query that is built. -/
structure SameGround (q q' : Query) : Prop where
  model : q'.model = q.model
  schema : q'.schema = q.schema
  stage : q'.stage = q.stage

theorem SameGround.symm (h : SameGround q q') : SameGround q' q := ⟨h.model.symm, h.schema.symm, h.stage.symm⟩

theorem SameGround.trans (h : SameGround q q') (h' : SameGround q' r) : SameGround q r :=
  ⟨h'.model.trans h.model, h'.schema.trans h.schema, h'.stage.trans h.stage⟩

theorem sameGround_apply (h : m.apply registry q = .ok q') : SameGround q q' := by
  cases makes_of_apply h <;> exact ⟨rfl, rfl, rfl⟩

theorem sameGround_modifyEach (h : q.stage = .building) (ms : List Modifier) :
    SameGround q (q.modifyEach registry ms) := by
  induction ms using List.reverseRecOn with
  | nil => exact ⟨rfl, rfl, rfl⟩
  | append_singleton ms m ih =>
    rw [modifyEach_concat, modify_of_building (stage_modifyEach h ms)]
    split
    case h_1 made happly => exact ih.trans (sameGround_apply happly)
    case h_2 => exact ih

/-- The schema is where the related table is looked for, not whether there is one. -/
theorem faultOf?_plan (hmodel : r.model = q.model) (name : Value) :
    faultOf? (r.plan registry name) = faultOf? (q.plan registry name) := by
  unfold plan
  rw [hmodel]
  split
  case h_1 model registry _ =>
    split
    · rfl
    · split
      case h_1 target _ _ => cases registry.find (.text target) <;> rfl
      case h_2 => rfl
  case h_2 => rfl

/-- **A modifier is refused for what it was given, the model and the registry.** -/
theorem faultOf?_apply (hmodel : r.model = q.model) (m : Modifier) :
    faultOf? (m.apply registry r) = faultOf? (m.apply registry q) := by
  cases m with
  | fetch => rfl
  | limit v => exact (faultOf?_map _ _).trans (faultOf?_map _ _).symm
  | sort v => exact (faultOf?_map _ _).trans (faultOf?_map _ _).symm
  | populate name =>
    calc faultOf? ((Modifier.populate name).apply registry r)
        = faultOf? (r.plan registry name) := faultOf?_map _ _
      _ = faultOf? (q.plan registry name) := faultOf?_plan hmodel name
      _ = faultOf? ((Modifier.populate name).apply registry q) := (faultOf?_map _ _).symm
  | connection c => rfl
  | intercept kind offer => exact (faultOf?_map _ _).trans (faultOf?_map _ _).symm

/-- What one query accepts, another of the same model accepts as well. -/
theorem exists_apply (hmodel : r.model = q.model) (h : m.apply registry r = .ok r') :
    ∃ q', m.apply registry q = .ok q' := by
  have hnone : faultOf? (m.apply registry q) = none := by
    rw [← faultOf?_apply hmodel, h]
    rfl
  cases halone : m.apply registry q with
  | ok q' => exact ⟨q', rfl⟩
  | error fault =>
    rw [halone] at hnone
    cases hnone

theorem refusal_of_building (h : q.stage = .building) (m : Modifier) :
    (m.perform registry).refusal q = faultOf? (m.apply registry q) := by
  rw [refusal_perform, modify_of_building h]

theorem refusal_eq (h : q.stage = .building) (hr : r.stage = .building) (hmodel : r.model = q.model) (m : Modifier) :
    (m.perform registry).refusal r = (m.perform registry).refusal q := by
  rw [refusal_of_building hr, refusal_of_building h, faultOf?_apply hmodel]

/-- **A modifier is refused among others exactly if it would have been refused alone.** -/
theorem refusals_eq (h : q.stage = .building) (hr : r.stage = .building) (hmodel : r.model = q.model)
    (ms : List Modifier) : r.refusals registry ms = ms.map fun m => (m.perform registry).refusal q := by
  induction ms generalizing r with
  | nil => rfl
  | cons m rest ih =>
    have halone : faultOf? (r.modify registry m) = (m.perform registry).refusal q :=
      (refusal_perform registry m r).symm.trans (refusal_eq h hr hmodel m)
    rw [refusals, List.map_cons, ← halone]
    cases hmodify : r.modify registry m with
    | ok made =>
      have hground := sameGround_apply ((modify_of_building hr m).symm.trans hmodify)
      exact congrArg (none :: ·) (ih (hground.stage.trans hr) (hground.model.trans hmodel))
    | error fault => exact congrArg (some fault :: ·) (ih hr hmodel)

/-! ## Settings -/

/-- What modifiers set, apart from whether results are fetched. -/
inductive Setting
  | limit
  | order
  | population
  | connection
  | handler (code : String)

/-- Whether a modifier, once accepted, decides a setting. -/
def Modifier.sets : Modifier → Setting → Bool
  | limit _, .limit => true
  | sort _, .order => true
  | populate _, .population => true
  | connection _, .connection => true
  | intercept kind _, .handler code => decide (code ∈ Violation.codesOf kind)
  | _, _ => false

/-- The same setting in both queries. -/
def Setting.Agree (q q' : Query) : Setting → Prop
  | limit => q.limit = q'.limit
  | order => q.order = q'.order
  | population => q.population = q'.population
  | connection => q.connection = q'.connection
  | handler code => q.interceptors.get? code = q'.interceptors.get? code

namespace Setting.Agree

theorem refl (s : Setting) (q : Query) : s.Agree q q := by cases s <;> rfl

theorem trans {s : Setting} (h : s.Agree q q') (h' : s.Agree q' r) : s.Agree q r := by
  cases s <;> exact Eq.trans h h'

theorem symm {s : Setting} (h : s.Agree q q') : s.Agree q' q := by
  cases s <;> exact Eq.symm h

end Setting.Agree

/-- A modifier leaves the settings of others alone. -/
theorem agree_of_not_sets (h : m.apply registry q = .ok q') {s : Setting} (hsets : m.sets s = false) :
    s.Agree q' q := by
  cases s with
  | limit =>
    cases makes_of_apply h with
    | limit => cases hsets
    | _ => rfl
  | order =>
    cases makes_of_apply h with
    | sort => cases hsets
    | _ => rfl
  | population =>
    cases makes_of_apply h with
    | populate => cases hsets
    | _ => rfl
  | connection =>
    cases makes_of_apply h with
    | connection => cases hsets
    | _ => rfl
  | handler code =>
    cases makes_of_apply h with
    | intercept hcheck =>
      -- an interceptor of another kind sets the handlers of other codes
      show Association.get? _ code = Association.get? _ code
      rw [get?_intercepting, if_neg (of_decide_eq_false hsets)]
    | _ => rfl

/-- A modifier makes the same of its own setting whatever it was before. -/
theorem agree_of_sets (h : m.apply registry q = .ok q') (h' : m.apply registry r = .ok r')
    (hground : SameGround q r) {s : Setting} (hsets : m.sets s = true) : s.Agree r' q' := by
  cases makes_of_apply h with
  | fetch => cases s <;> cases hsets
  | limit hread =>
    cases makes_of_apply h' with
    | limit hread' =>
      cases s with
      | limit => exact congrArg some (Except.ok.inj (hread'.symm.trans hread))
      | _ => cases hsets
  | sort hread =>
    cases makes_of_apply h' with
    | sort hread' =>
      cases s with
      | order => exact congrArg some (Except.ok.inj (hread'.symm.trans hread))
      | _ => cases hsets
  | @populate name plan hread =>
    cases makes_of_apply h' with
    | populate hread' =>
      -- where the related table is, the model and the schema say
      have hplan : r.plan registry name = q.plan registry name := by
        unfold Query.plan
        rw [hground.model, hground.schema]
      cases s with
      | population => exact congrArg some (Except.ok.inj (hread'.symm.trans (hplan.trans hread)))
      | _ => cases hsets
  | connection c =>
    cases makes_of_apply h' with
    | connection =>
      cases s with
      | connection => rfl
      | _ => cases hsets
  | intercept hcheck =>
    cases makes_of_apply h' with
    | intercept hcheck' =>
      obtain rfl := Except.ok.inj (hcheck'.symm.trans hcheck)
      cases s with
      | handler code =>
        show Association.get? _ code = Association.get? _ code
        rw [get?_intercepting, get?_intercepting, if_pos (of_decide_eq_true hsets), if_pos (of_decide_eq_true hsets)]
      | _ => cases hsets

/-- The last modifier of a setting that is accepted. -/
def lastAccepted (registry : Option Registry) (q : Query) (s : Setting) (ms : List Modifier) : Option Modifier :=
  (ms.filter fun m => m.sets s && ((m.perform registry).refusal q).isNone).getLast?

/-- **The last modifier of a setting that is accepted decides it**, as if it were the only one. -/
theorem agree_modifyEach (registry : Option Registry) (h : q.stage = .building) (s : Setting) (ms : List Modifier) :
    s.Agree (q.modifyEach registry ms) (q.modifyEach registry (lastAccepted registry q s ms).toList) := by
  induction ms using List.reverseRecOn with
  | nil => exact .refl s q
  | append_singleton ms m ih =>
    have hground : SameGround q (q.modifyEach registry ms) := sameGround_modifyEach h ms
    have hrefusal : faultOf? (m.apply registry (q.modifyEach registry ms)) = (m.perform registry).refusal q :=
      (faultOf?_apply hground.model m).trans (refusal_of_building h m).symm
    rw [modifyEach_concat, modify_of_building (stage_modifyEach h ms), lastAccepted, List.filter_append,
      List.filter_cons, List.filter_nil, ← hrefusal]
    cases happly : m.apply registry (q.modifyEach registry ms) with
    | error fault =>
      -- a modifier that is refused is not the last that is accepted
      simpa [faultOf?, lastAccepted] using ih
    | ok made =>
      cases hsets : m.sets s with
      | false => simpa [faultOf?, lastAccepted] using (agree_of_not_sets happly hsets).trans ih
      | true =>
        -- the last modifier decides the setting; alone, it is accepted as well
        obtain ⟨only, halone⟩ := exists_apply hground.model happly
        have honly : q.modifyEach registry [m] = only := by
          rw [modifyEach_cons, modify_of_building h, halone]
          rfl
        simpa [faultOf?, honly] using agree_of_sets halone happly hground hsets

/-! ## The statement -/

/-- The handlers that are set, one modifier after the other. -/
theorem interceptors_modifyEach (h : q.stage = .building) (ms : List Modifier) :
    (q.modifyEach registry ms).interceptors =
      (ms.filterMap Modifier.interception?).foldl
        (fun table interception => intercepting table interception.2 (Violation.codesOf interception.1))
        q.interceptors := by
  induction ms using List.reverseRecOn with
  | nil => rfl
  | append_singleton ms m ih =>
    rw [modifyEach_concat, modify_of_building (stage_modifyEach h ms), List.filterMap_append, List.foldl_append, ← ih]
    cases happly : m.apply registry (q.modifyEach registry ms) with
    | error fault => simp [interception?_of_refused happly]
    | ok made =>
      rw [interceptors_apply happly, List.filterMap_cons]
      cases m.interception? <;> rfl

/-- Queries that do the same and agree in all settings build the same statement. -/
theorem same_build (hwork : SameWork q q') (hground : SameGround q q') (hfetching : q'.fetching = q.fetching)
    (hsettings : ∀ s : Setting, s.Agree q' q) : Statement.Same q'.build q.build where
  sql := by
    have htext : q'.text? = q.text? := by
      unfold text? body? orderSql limitSql finalMode
      rw [hwork.sql, hwork.lookup, hwork.returning, hwork.mode, hwork.fetchMode, hfetching,
        show q'.order = q.order from hsettings .order, show q'.limit = q.limit from hsettings .limit]
    exact congrArg (Option.map Sql.render) htext
  arguments := hwork.arguments
  model := hground.model
  mode := by
    show q'.finalMode = q.finalMode
    unfold finalMode
    rw [hwork.mode, hwork.fetchMode, hfetching]
  single := hwork.single
  population := hsettings .population
  handler code := hsettings (.handler code)
  connection := hsettings .connection

/-! ## Kinds -/

/-- What a modifier is. -/
inductive Modifier.Kind
  | fetch
  | limit
  | sort
  | populate
  | connection
  | intercept
  deriving DecidableEq

def Modifier.kind : Modifier → Modifier.Kind
  | fetch => .fetch
  | limit _ => .limit
  | sort _ => .sort
  | populate _ => .populate
  | connection _ => .connection
  | intercept _ _ => .intercept

/-- The kind of the modifiers that decide a setting. -/
def Setting.kind : Setting → Modifier.Kind
  | limit => .limit
  | order => .sort
  | population => .populate
  | connection => .connection
  | handler _ => .intercept

theorem kind_of_sets {s : Setting} (h : m.sets s = true) : m.kind = s.kind := by
  cases m with
  | fetch => cases s <;> cases h
  | limit v =>
    cases s with
    | limit => rfl
    | _ => cases h
  | sort v =>
    cases s with
    | order => rfl
    | _ => cases h
  | populate name =>
    cases s with
    | population => rfl
    | _ => cases h
  | connection c =>
    cases s with
    | connection => rfl
    | _ => cases h
  | intercept kind offer =>
    cases s with
    | handler code => rfl
    | _ => cases h

section

variable {ms ms' : List Modifier}
  (hkinds : ∀ kind, ms'.filter (fun m => m.kind = kind) = ms.filter fun m => m.kind = kind)

include hkinds

/-- What depends on the modifiers of one kind only is the same if those of one kind are the same. -/
theorem filterMap_of_kinds {α : Type} (f : Modifier → Option α) (kind : Modifier.Kind)
    (hf : ∀ m, m.kind ≠ kind → f m = none) : ms'.filterMap f = ms.filterMap f := by
  have honly (ms : List Modifier) : (ms.filter fun m => m.kind = kind).filterMap f = ms.filterMap f := by
    rw [List.filterMap_filter]
    apply List.filterMap_congr
    intro m _
    by_cases hkind : m.kind = kind
    · simp [hkind]
    · simp [hkind, hf m hkind]
  rw [← honly ms', hkinds, honly ms]

theorem lastAccepted_of_kinds (registry : Option Registry) (q : Query) (s : Setting) :
    lastAccepted registry q s ms' = lastAccepted registry q s ms := by
  unfold lastAccepted
  rw [← List.filterMap_eq_filter]
  apply congrArg List.getLast?
  apply filterMap_of_kinds hkinds _ s.kind
  intro m hkind
  have hsets : m.sets s = false := by
    rw [Bool.eq_false_iff]
    intro hsets
    exact hkind (kind_of_sets hsets)
  simp [Option.guard, hsets]

theorem fetch_mem_of_kinds : .fetch ∈ ms' ↔ .fetch ∈ ms := by
  have hmem (ms : List Modifier) : .fetch ∈ ms ↔ .fetch ∈ ms.filter fun m => m.kind = .fetch := by
    simp [List.mem_filter, Modifier.kind]
  rw [hmem ms', hmem ms, hkinds]

theorem interceptions_of_kinds : ms'.filterMap Modifier.interception? = ms.filterMap Modifier.interception? := by
  apply filterMap_of_kinds hkinds _ .intercept
  intro m hkind
  cases m with
  | intercept kind offer => exact absurd rfl hkind
  | _ => rfl

end

/-! ## Any order -/

/-- With the handlers set in the same order too, it is the very same statement. -/
theorem eq_of_same {s s' : Statement} (h : s.Same s') (hinterceptors : s.interceptors = s'.interceptors) : s = s' := by
  cases s
  cases s'
  obtain ⟨rfl, rfl, rfl, rfl, rfl, rfl, -, rfl⟩ := h
  obtain rfl := hinterceptors
  rfl

theorem same_of_settings (h : q.stage = .building) {ms ms' : List Modifier} (hfetch : .fetch ∈ ms' ↔ .fetch ∈ ms)
    (hlast : ∀ s, lastAccepted registry q s ms' = lastAccepted registry q s ms) :
    Statement.Same (q.modifyEach registry ms').build (q.modifyEach registry ms).build := by
  obtain ⟨hwork, hfetching⟩ := sameWork_modifyEach registry h ms
  obtain ⟨hwork', hfetching'⟩ := sameWork_modifyEach registry h ms'
  have hground : SameGround q (q.modifyEach registry ms) := sameGround_modifyEach h ms
  have hground' : SameGround q (q.modifyEach registry ms') := sameGround_modifyEach h ms'
  apply same_build (hwork.symm.trans hwork') (hground.symm.trans hground')
  · have hany : ms'.any Modifier.fetches = ms.any Modifier.fetches := by
      rw [Bool.eq_iff_iff, any_fetches_iff, any_fetches_iff, hfetch]
    rw [hfetching, hfetching', hany]
  · intro s
    have hagree := agree_modifyEach registry h s ms'
    rw [hlast s] at hagree
    exact hagree.trans (agree_modifyEach registry h s ms).symm

/-- **Modifiers change a query as a whole or not at all, and those of different kinds do not get in each other's way.**

A modifier that is refused leaves the query alone; among others it is refused for the same reason as alone; and that is
the same for every query of the model. The statement depends on whether results are fetched and, for each setting, on
the last modifier that was accepted. So modifiers that are mixed differently, those of one kind in the same order, make
the same statement. -/
theorem modifiers_commute (registry : Option Registry) (h : q.stage = .building) :
    (∀ (m : Modifier) (r r' : Query) fault, (m.perform registry).result r = (.error fault, r') → r' = r) ∧
    (∀ ms, (afterEach registry ms q).1 = ms.map fun m => (m.perform registry).refusal q) ∧
    (∀ (m : Modifier) (r : Query), r.stage = .building → r.model = q.model →
      (m.perform registry).refusal r = (m.perform registry).refusal q) ∧
    (∀ ms ms', (.fetch ∈ ms' ↔ .fetch ∈ ms) →
      (∀ s, lastAccepted registry q s ms' = lastAccepted registry q s ms) →
      Statement.Same (afterEach registry ms' q).2.build (afterEach registry ms q).2.build) ∧
    ∀ ms ms', (∀ kind, (ms'.filter fun m => m.kind = kind) = ms.filter fun m => m.kind = kind) →
      (afterEach registry ms' q).2.build = (afterEach registry ms q).2.build := by
  refine ⟨?_, ?_, ?_, ?_, ?_⟩
  · intro m r r' fault hrefused
    exact eq_of_refused hrefused
  · intro ms
    rw [afterEach_eq]
    exact refusals_eq h h rfl ms
  · intro m r hr hmodel
    exact refusal_eq h hr hmodel m
  · intro ms ms' hfetch hlast
    rw [afterEach_eq, afterEach_eq]
    exact same_of_settings h hfetch hlast
  · intro ms ms' hkinds
    rw [afterEach_eq, afterEach_eq]
    have hsame : Statement.Same (q.modifyEach registry ms').build (q.modifyEach registry ms).build :=
      same_of_settings h (fetch_mem_of_kinds hkinds) (lastAccepted_of_kinds hkinds registry q)
    apply eq_of_same hsame
    show (q.modifyEach registry ms').interceptors = (q.modifyEach registry ms).interceptors
    rw [interceptors_modifyEach h, interceptors_modifyEach h, interceptions_of_kinds hkinds]

/-- Two limits and two orders, with two modifiers among them that are refused. -/
def modifiedTwice : List Modifier :=
  [.limit (.int 2), .sort (.text "name"), .populate (.text "owner"), .limit (.int 3), .fetch, .sort (.text ""),
    .sort (.text "id desc")]

/-- The same, the limits behind everything else. -/
def limitedLater : List Modifier :=
  [.sort (.text "name"), .populate (.text "owner"), .sort (.text ""), .fetch, .sort (.text "id desc"), .limit (.int 2),
    .limit (.int 3)]

theorem modifiers_commute_of_limits :
    (plain none (some (Sql.keywords [.SELECT])) [] .raw .rows).stage = .building ∧
    ((afterEach (some ⟨[]⟩) limitedLater (plain none (some (Sql.keywords [.SELECT])) [] .raw .rows)).1.map
        Option.isSome =
      [false, true, true, false, false, false, false]) ∧
    (afterEach (some ⟨[]⟩) limitedLater (plain none (some (Sql.keywords [.SELECT])) [] .raw .rows)).2.build =
      (afterEach (some ⟨[]⟩) modifiedTwice (plain none (some (Sql.keywords [.SELECT])) [] .raw .rows)).2.build ∧
    (afterEach (some ⟨[]⟩) modifiedTwice (plain none (some (Sql.keywords [.SELECT])) [] .raw .rows)).2.build.sql =
      some "SELECT RETURNING * ORDER BY \"id\" DESC LIMIT 3" := by
  obtain ⟨-, hrefused, -, -, hmixed⟩ :=
    modifiers_commute (q := plain none (some (Sql.keywords [.SELECT])) [] .raw .rows) (some ⟨[]⟩) rfl
  refine ⟨rfl, ?_, ?_, by rfl⟩
  · rw [hrefused]
    rfl
  · apply hmixed
    intro kind
    cases kind <;> rfl

end Query
end ModelStore

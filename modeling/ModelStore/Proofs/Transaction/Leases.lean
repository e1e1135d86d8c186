import ModelStore.Proofs.Query.Execution
import ModelStore.Proofs.Storage.Turns
import ModelStore.Proofs.Transaction.Fate
import ModelStore.Proofs.Transaction.Program

/-!
# Leases, seen from the connection

`Lease` says what leases there are: one for an unbound statement, one for a transaction that could not be
begun, and one for a transaction that was. Each of them is the conversation of a call from its beginning to
its end, and what the connection sees of it; and each is a bracket, with nothing but statements inside
(`Lease.bracket`).

**Of a single task's conversation, `Program.keeps` says that a connection that is out sees nothing but
statements, and one that is not sees a sequence of the task's leases**, the last of them perhaps not over.
The two belong together: when a unit of work has a connection, what that connection sees of it is the first,
what every other one sees is the second, and the induction over programs needs both.
-/

namespace ModelStore

open Dialogue

/-! ## Leases -/

section Leases

variable {calls : Call → Prop} {c : Connection} {conversation lease : List Answered}

/-- **A lease of a connection**: the conversation of one call, from its beginning to its end, and what the
connection sees of it.

* A statement's lease is the statements of its execution between getting the connection and giving it
  back.
* A transaction that could not be begun is `BEGIN` between them, and nothing else.
* Otherwise it is `BEGIN`, the statements that the unit of work sent on the connection, and the end that
  the outcome of the unit of work calls for. -/
inductive Lease (calls : Call → Prop) (c : Connection) : List Answered → List Answered → Prop
  | statement {s : Statement} {sql : String} {now : Int} {statements : List Answered}
      (hcall : calls (.statement s)) (hsql : s.sql = some sql) (hunbound : s.connection = none)
      (hsends : s.Sends sql now c statements) (released : Except Fault Unit) :
      Lease calls c
        (⟨.clock, .ok now⟩ :: ⟨.pool, .ok ()⟩ :: (.acquired c :: statements ++ [.released c released]))
        (.acquired c :: statements ++ [.released c released])
  | unbegun {α : Type} {work : Connection → Dialogue α} (hcall : calls (.transaction work))
      (fault : Fault) (released : Except Fault Unit) :
      Lease calls c
        [⟨.pool, .ok ()⟩, .acquired c, .sent c "BEGIN" [] (.error fault), .released c released]
        [.acquired c, .sent c "BEGIN" [] (.error fault), .released c released]
  | worked {α : Type} {work : Connection → Dialogue α} {middle tail : List Answered}
      {result fate : Except Fault α} {later : Option Fault} (hcall : calls (.transaction work))
      (begun : Outcome) (hwork : Runs (work c) middle result)
      (hends : Transaction.Ends c result tail fate later) :
      Lease calls c
        (⟨.pool, .ok ()⟩ :: .acquired c :: .sent c "BEGIN" [] (.ok begun) :: (middle ++ tail))
        (.acquired c :: .sent c "BEGIN" [] (.ok begun)
          :: (middle.filter (Answered.speaks c) ++ tail))

/-- An execution sends its statements on one connection. -/
theorem Statement.Sends.speaks {s : Statement} {sql : String} {now : Int} {statements : List Answered}
    (h : s.Sends sql now c statements) : ∀ a ∈ statements, a.speaks c = true := by
  cases h with
  | failed fault => simp
  | succeeded hfollows =>
    cases hfollows with
    | nothing _ => simp
    | lookup _ reply => simp [Statement.lookedUp]

/-- A transaction ends by giving its connection back. -/
theorem Transaction.Ends.released {α : Type} {result fate : Except Fault α} {tail : List Answered}
    {later : Option Fault} (h : Transaction.Ends c result tail fate later) :
    ∃ statements released, tail = statements ++ [.released c released] ∧
      ∀ a ∈ statements, a.speaks c = true := by
  cases h with
  | committed _ _ released => exact ⟨[_], released, rfl, by simp⟩
  | uncommitted _ _ _ released => exact ⟨[_, _], released, rfl, by simp⟩
  | failed _ _ released => exact ⟨[_], released, rfl, by simp⟩

/-- **A lease begins with getting the connection and ends with giving it back**, and between the two are
statements. -/
theorem Lease.bracket (h : Lease calls c conversation lease) :
    ∃ statements released, lease = .acquired c :: statements ++ [.released c released] ∧
      ∀ a ∈ statements, a.speaks c = true := by
  cases h with
  | statement _ _ _ hsends released => exact ⟨_, released, rfl, hsends.speaks⟩
  | unbegun _ fault released => exact ⟨[_], released, rfl, by simp⟩
  | @worked _ _ middle _ _ _ _ _ begun _ hends =>
    obtain ⟨ending, released, rfl, hending⟩ := hends.released
    refine ⟨.sent c "BEGIN" [] (.ok begun) :: (middle.filter (Answered.speaks c) ++ ending), released,
      by simp, ?_⟩
    intro a ha
    rcases List.mem_cons.mp ha with rfl | ha
    · simp
    · rcases List.mem_append.mp ha with ha | ha
      · exact (List.mem_filter.mp ha).2
      · exact hending a ha

/-- A call is over when the connection is given back. -/
theorem Lease.ends (h : Lease calls c conversation lease) :
    ∃ before released, conversation = before ++ [.released c released] := by
  cases h with
  | statement _ _ _ _ released => exact ⟨_ :: _ :: _, released, rfl⟩
  | unbegun _ _ released => exact ⟨[_, _, _], released, rfl⟩
  | @worked _ _ middle _ _ _ _ _ begun _ hends =>
    obtain ⟨ending, released, rfl, -⟩ := hends.released
    refine ⟨⟨.pool, .ok ()⟩ :: .acquired c :: .sent c "BEGIN" [] (.ok begun) :: (middle ++ ending),
      released, ?_⟩
    simp

theorem Lease.closed (h : Lease calls c conversation lease) : Closed (Answered.gives c) lease := by
  obtain ⟨statements, released, rfl, hstatements⟩ := h.bracket
  refine ⟨.acquired c :: statements, .released c released, rfl, by simp, ?_⟩
  intro a ha
  rcases List.mem_cons.mp ha with rfl | ha
  · rfl
  · exact Answered.speaks_not_gives (hstatements a ha)

/-- After a lease the connection is where it was. -/
theorem Lease.lent (h : Lease calls c conversation lease) : lent c false lease = false := by
  obtain ⟨statements, released, rfl, -⟩ := h.bracket
  rw [lent_append]
  simp [ModelStore.lent, Answered.lends]

/-- A lease that has begun, of which something is still to come. -/
def Opens (calls : Call → Prop) (c : Connection) (told part : List Answered) : Prop :=
  part ≠ [] ∧ ∃ conversation rest later, conversation <:+ told ∧ later ≠ [] ∧
    Lease calls c (conversation ++ rest) (part ++ later)

/-- It has begun with getting the connection, and gone on with statements. -/
theorem Opens.begins {told part : List Answered} (h : Opens calls c told part) :
    ∃ statements, part = .acquired c :: statements ∧ ∀ a ∈ statements, a.speaks c = true := by
  obtain ⟨hpart, conversation, rest, later, -, hlater, hlease⟩ := h
  obtain ⟨statements, released, heq, hstatements⟩ := hlease.bracket
  cases part with
  | nil => exact absurd rfl hpart
  | cons a part =>
    rw [List.cons_append, List.cons_append, List.cons.injEq] at heq
    obtain ⟨rfl, heq⟩ := heq
    refine ⟨part, rfl, ?_⟩
    intro b hb
    obtain ⟨later, last, rfl⟩ := List.eq_nil_or_concat later |>.resolve_left hlater
    rw [List.concat_eq_append, ← List.append_assoc] at heq
    have hinit := (List.append_inj' heq rfl).1
    exact hstatements b (hinit ▸ List.mem_append_left _ hb)

end Leases

/-! ## One task -/

section Task

variable {calls : Call → Prop} {c : Connection} {out : Bool} {told first second rest : List Answered}
  {finished finished' : Prop}

/-- **What a connection sees of a task's conversation.** If it is out, nothing but statements, or nothing
at all, for then it is the task's own or somebody else's. If it is not, whole leases, and the beginning of
one more if the task is not `finished`. -/
structure Keeps (calls : Call → Prop) (c : Connection) (out : Bool) (told : List Answered)
    (finished : Prop) : Prop where
  statements : out = true → ∀ a ∈ seen c told, a.speaks c = true
  leases : out = false → ∃ (leases : List (List Answered)) (part : List Answered),
    seen c told = leases.flatten ++ part ∧
      (∀ l ∈ leases, ∃ conversation, conversation <:+: told ∧ Lease calls c conversation l) ∧
      (part = [] ∨ ¬finished ∧ Opens calls c told part)

theorem keeps_of_seen_eq_nil (h : seen c told = []) : Keeps calls c out told finished where
  statements _ := by simp [h]
  leases _ := ⟨[], [], by simp [h], by simp, Or.inl rfl⟩

/-- A conversation that the connection sees nothing of says nothing about it, however far it has come. -/
theorem keeps_of_seen_append_eq_nil (h : seen c (told ++ rest) = []) : Keeps calls c out told finished := by
  rw [seen_append, List.append_eq_nil_iff] at h
  exact keeps_of_seen_eq_nil h.1

theorem Keeps.mono (h : Keeps calls c out told finished) (hover : finished' → finished) :
    Keeps calls c out told finished' where
  statements := h.statements
  leases hout := by
    obtain ⟨leases, part, hseen, hleases, hpart⟩ := h.leases hout
    refine ⟨leases, part, hseen, hleases, ?_⟩
    rcases hpart with hnil | ⟨hgoing, hopens⟩
    · exact Or.inl hnil
    · exact Or.inr ⟨fun h => hgoing (hover h), hopens⟩

/-- Whole leases leave the connection where it was. -/
theorem lent_flatten {leases : List (List Answered)}
    (h : ∀ l ∈ leases, ∃ conversation, Lease calls c conversation l) :
    lent c false leases.flatten = false := by
  induction leases with
  | nil => rfl
  | cons l leases ih =>
    obtain ⟨conversation, hlease⟩ := h l List.mem_cons_self
    rw [List.flatten_cons, lent_append, hlease.lent]
    exact ih fun l hl => h l (List.mem_cons_of_mem _ hl)

/-- When a task is over, a connection is where it was. -/
theorem Keeps.lent (h : Keeps calls c out told True) : lent c out told = out := by
  cases out with
  | true => exact lent_of_speaks (h.statements rfl)
  | false =>
    obtain ⟨leases, part, hseen, hleases, hpart⟩ := h.leases rfl
    obtain rfl : part = [] := hpart.resolve_right fun h => h.1 trivial
    rw [← lent_seen, hseen, List.append_nil]
    refine @lent_flatten calls c leases ?_
    intro l hl
    obtain ⟨conversation, -, hlease⟩ := hleases l hl
    exact ⟨conversation, hlease⟩

/-- One thing after another. -/
theorem Keeps.append (hfirst : Keeps calls c out first True) (hfair : Fair c out (first ++ second))
    (hsecond : Fair c out second → Keeps calls c out second finished) :
    Keeps calls c out (first ++ second) finished := by
  have hkept : Keeps calls c out second finished := by
    refine hsecond ?_
    have hafter := (fair_append.mp hfair).2
    rwa [hfirst.lent] at hafter
  constructor
  · intro hout a ha
    rw [seen_append] at ha
    rcases List.mem_append.mp ha with ha | ha
    · exact hfirst.statements hout a ha
    · exact hkept.statements hout a ha
  · intro hout
    obtain ⟨leases, part, hseen, hleases, hpart⟩ := hfirst.leases hout
    obtain rfl : part = [] := hpart.resolve_right fun h => h.1 trivial
    obtain ⟨leases', part', hseen', hleases', hpart'⟩ := hkept.leases hout
    refine ⟨leases ++ leases', part', ?_, ?_, ?_⟩
    · rw [seen_append, hseen, hseen', List.append_nil, List.flatten_append, List.append_assoc]
    · intro l hl
      rcases List.mem_append.mp hl with hl | hl
      · obtain ⟨conversation, hinfix, hlease⟩ := hleases l hl
        exact ⟨conversation, hinfix.trans (List.prefix_append _ _).isInfix, hlease⟩
      · obtain ⟨conversation, hinfix, hlease⟩ := hleases' l hl
        exact ⟨conversation, hinfix.trans (List.suffix_append _ _).isInfix, hlease⟩
    · rcases hpart' with hnil | ⟨hgoing, hne, conversation, rest, later, hsuffix, hlater, hlease⟩
      · exact Or.inl hnil
      · exact Or.inr ⟨hgoing, hne, conversation, rest, later,
          hsuffix.trans (List.suffix_append _ _), hlater, hlease⟩

/-- One request first, which the connection does not see, or which is a statement while it is out. -/
theorem Keeps.cons {a : Answered} (ha : a.concerns c = true → out = true ∧ a.speaks c = true)
    (hfair : Fair c out (a :: told)) (htold : Fair c out told → Keeps calls c out told finished) :
    Keeps calls c out (a :: told) finished := by
  have hone : Keeps calls c out [a] True := by
    constructor
    · intro _ b hb
      obtain ⟨hmem, hconcerns⟩ := List.mem_filter.mp hb
      obtain rfl := List.mem_singleton.mp hmem
      exact (ha hconcerns).2
    · intro hout
      have hunseen : a.concerns c = false := by
        by_contra hconcerns
        rw [(ha (by simpa using hconcerns)).1] at hout
        exact absurd hout (by simp)
      refine ⟨[], [], ?_, by simp, Or.inl rfl⟩
      simp [seen_cons, hunseen, seen_nil]
  rw [← List.singleton_append]
  exact hone.append hfair htold

/-- **A call that leases the connection**, wherever it has come to: `rest` is what is still to come. -/
theorem keeps_of_lease (h : Lease calls c (told ++ rest) (seen c (told ++ rest)))
    (hrest : rest = [] ↔ finished) (hfair : Fair c out told) : Keeps calls c out told finished := by
  constructor
  · -- the connection would be handed out twice
    intro hout
    subst hout
    suffices hnone : seen c told = [] by simp [hnone]
    obtain ⟨statements, released, hbracket, -⟩ := h.bracket
    rw [seen_append] at hbracket
    cases hseen : seen c told with
    | nil => rfl
    | cons a saw =>
      rw [hseen, List.cons_append, List.cons_append, List.cons.injEq] at hbracket
      have htwice : Fair c true (a :: saw) := hseen ▸ fair_seen.mpr hfair
      rw [hbracket.1] at htwice
      exact absurd (htwice.1 (by simp)) (by simp)
  · intro _
    by_cases hover : rest = []
    · subst hover
      rw [List.append_nil] at h
      refine ⟨[seen c told], [], by simp, ?_, Or.inl rfl⟩
      intro l hl
      rw [List.mem_singleton.mp hl]
      exact ⟨told, List.infix_refl _, h⟩
    · by_cases hsilent : seen c told = []
      · exact (keeps_of_seen_eq_nil hsilent : Keeps calls c false told finished).leases rfl
      · refine ⟨[], seen c told, by simp, by simp, Or.inr ⟨fun h => hover (hrest.mpr h), hsilent, told, rest,
          seen c rest, List.suffix_refl _, ?_, ?_⟩⟩
        · -- the last request of the call is one that the connection sees
          obtain ⟨before, released, hends⟩ := h.ends
          obtain ⟨rest, last, rfl⟩ := (List.eq_nil_or_concat rest).resolve_left hover
          rw [List.concat_eq_append, ← List.append_assoc] at hends
          obtain rfl : last = .released c released := by simpa using (List.append_inj' hends rfl).2
          simp [seen]
        · rw [← seen_append]
          exact h

/-- A conversation with a beginning and an end that the connection sees nothing of, wherever it has come
to: what it sees is of the `middle`. -/
theorem keeps_of_between {opening middle tail : List Answered}
    (hwhole : told ++ rest = opening ++ (middle ++ tail)) (hopening : seen c opening = [])
    (htail : seen c tail = []) (hfair : Fair c out told)
    (hover : Fair c out middle → Keeps calls c out middle True)
    (hgoing : ∀ {said missing}, middle = said ++ missing → rest = missing ++ tail → Fair c out said →
      Keeps calls c out said finished) : Keeps calls c out told finished := by
  rcases List.append_eq_append_iff.mp hwhole with ⟨missing, rfl, -⟩ | ⟨said, rfl, hsaid⟩
  · exact keeps_of_seen_append_eq_nil hopening
  · refine Keeps.append (keeps_of_seen_eq_nil hopening) hfair ?_
    intro hsaidFair
    rcases List.append_eq_append_iff.mp hsaid with ⟨ended, rfl, rfl⟩ | ⟨missing, rfl, hmissing⟩
    · refine Keeps.append (hover (fair_append.mp hsaidFair).1) hsaidFair ?_
      intro _
      exact keeps_of_seen_append_eq_nil htail
    · exact hgoing rfl hmissing hsaidFair

/-- An unbound statement keeps to a lease of its own. -/
theorem keeps_of_statement {s : Statement} {m : Dialogue Answer} (hcall : calls (.statement s))
    (hunbound : s.connection = none) (h : Leads s.execute told m) (hfair : Fair c out told) :
    Keeps calls c out told (∃ o, m = .done o) := by
  obtain ⟨rest, outcome, hruns, -, hrest⟩ := h.finish
  have htraced := Statement.traced_of_runs hruns
  have hsilent : seen c (told ++ rest) = [] → Keeps calls c out told (∃ o, m = .done o) :=
    keeps_of_seen_append_eq_nil
  generalize hwhole : told ++ rest = whole at htraced hsilent
  cases htraced with
  | silent _ => exact hsilent rfl
  | timeless _ fault => exact hsilent rfl
  | bound _ hbound _ _ => exact absurd (hunbound.symm.trans hbound) (by simp)
  | poolless _ _ now fault => exact hsilent rfl
  | refused _ _ now fault => exact hsilent rfl
  | @leased sql d statements hsql _ now hsends released =>
    by_cases hd : d = c
    · subst hd
      refine keeps_of_lease ?_ hrest hfair
      rw [hwhole]
      simpa [seen_cons, seen_append, seen_of_speaks hsends.speaks, seen_nil]
        using Lease.statement hcall hsql hunbound hsends released
    · refine hsilent ?_
      simp [seen_cons, seen_append, seen_of_speaks_of_ne hd hsends.speaks, hd, seen_nil]

/-- **A transaction keeps to a lease of its own**, if its unit of work does with the connections it leases
and leaves the one it is given alone but for statements. -/
theorem keeps_of_transaction {α : Type} {work : Connection → Dialogue α} {m : Dialogue α}
    (hcall : calls (.transaction work))
    (hgiven : ∀ {told m}, Fair c true told → Leads (work c) told m →
      Keeps calls c true told (∃ o, m = .done o))
    (hother : ∀ {d told m}, d ≠ c → Fair c out told → Leads (work d) told m →
      Keeps calls c out told (∃ o, m = .done o))
    (h : Leads (Transaction.run work) told m) (hfair : Fair c out told) :
    Keeps calls c out told (∃ o, m = .done o) := by
  obtain ⟨rest, outcome, hruns, hfailed, hrest⟩ := h.finish
  obtain ⟨fate, later, hcourse, -⟩ := Transaction.course_of_runs hruns
  have hsilent : seen c (told ++ rest) = [] → Keeps calls c out told (∃ o, m = .done o) :=
    keeps_of_seen_append_eq_nil
  have hwholeFair : Fair c out (told ++ rest) := fair_append.mpr ⟨hfair, fair_of_failed hfailed⟩
  generalize hwhole : told ++ rest = whole at hcourse hsilent hwholeFair
  cases hcourse with
  | poolless fault => exact hsilent rfl
  | refused fault => exact hsilent rfl
  | unbegun d fault released =>
    by_cases hd : d = c
    · subst hd
      refine keeps_of_lease ?_ hrest hfair
      rw [hwhole]
      simpa [seen_cons, seen_nil] using Lease.unbegun hcall fault released
    · refine hsilent ?_
      simp [seen_cons, hd, seen_nil]
  | @worked d middle tail result _ _ begun hmiddle hends =>
    obtain ⟨ending, released, htail, hending⟩ := hends.released
    by_cases hd : d = c
    · subst hd
      -- the unit of work has the connection, so what it sees of the work is statements
      have hmiddleFair : Fair d true middle := by
        have hafter := (fair_append.mp hwholeFair.2.2.2).1
        simpa [Answered.lends] using hafter
      have hstatements := (hgiven hmiddleFair hmiddle).statements rfl
      refine keeps_of_lease ?_ hrest hfair
      rw [hwhole]
      simpa [seen_cons, seen_append, seen_eq_filter_speaks hstatements, htail, seen_of_speaks hending,
        seen_nil] using Lease.worked hcall begun hmiddle hends
    · have htailSeen : seen c tail = [] := by
        simp [htail, seen_append, seen_cons, seen_of_speaks_of_ne hd hending, hd, seen_nil]
      have hopeningSeen : seen c
          [⟨.pool, .ok ()⟩, .acquired d, .sent d "BEGIN" [] (.ok begun)] = [] := by
        simp [seen_cons, hd, seen_nil]
      refine keeps_of_between hwhole hopeningSeen htailSeen hfair ?_ ?_
      · intro hmiddleFair
        exact (hother hd hmiddleFair hmiddle).mono fun _ => ⟨_, rfl⟩
      · -- while the work is under way, so is the transaction
        intro said missing hsaid hmissing hsaidFair
        subst hsaid
        obtain ⟨m', hm', -⟩ := Leads.split hmiddle
        refine (hother hd hsaidFair hm').mono ?_
        intro hover
        rw [hrest.mpr hover, htail] at hmissing
        exact absurd hmissing (by simp)

/-- One dialogue after another: under way, the first is all there is; then it is over, and the second goes
on from there. -/
theorem Keeps.afterwards {α β : Type} {d : Dialogue β} {next : Except Fault β → Dialogue α} {m : Dialogue α}
    (h : Leads (d.afterwards next) told m) (hfair : Fair c out told)
    (hfirst : ∀ {told m}, Leads d told m → Fair c out told → Keeps calls c out told (∃ o, m = .done o))
    (hnext : ∀ {told} o, Leads (next o) told m → Fair c out told →
      Keeps calls c out told (∃ o, m = .done o)) :
    Keeps calls c out told (∃ o, m = .done o) := by
  rcases leads_afterwards h with ⟨m', hm', -, hgoing⟩ | ⟨first, middle, second, rfl, hover, hsecond⟩
  · refine (hfirst hm' hfair).mono ?_
    rintro ⟨o, hdone⟩
    exact absurd hdone (hgoing o)
  · have hkept := (hfirst hover (fair_append.mp hfair).1).mono fun _ : True => ⟨_, rfl⟩
    exact hkept.append hfair (hnext middle hsecond)

/-- **What a connection sees of a task.** The induction is on the program: of the units of work in it, the
one that has the connection is covered by the first half of `Keeps`, and every other by the second. -/
theorem Program.keeps {own : List Connection} {α : Type} {d : Dialogue α} (hprogram : Program calls own d)
    {m : Dialogue α} (hown : c ∈ own → out = true) (hfair : Fair c out told) (h : Leads d told m) :
    Keeps calls c out told (∃ o, m = .done o) := by
  induction hprogram generalizing out told with
  | done o =>
    obtain ⟨rfl, -⟩ := leads_done.mp h
    exact keeps_of_seen_eq_nil rfl
  | clock _ ih =>
    cases h with
    | here => exact keeps_of_seen_eq_nil rfl
    | there reply hrest => exact Keeps.cons (by simp) hfair fun hfair => ih reply hown hfair hrest
  | pool _ ih =>
    cases h with
    | here => exact keeps_of_seen_eq_nil rfl
    | there reply hrest => exact Keeps.cons (by simp) hfair fun hfair => ih reply hown hfair hrest
  | @send _ _ d sql arguments _ hd _ ih =>
    cases h with
    | here => exact keeps_of_seen_eq_nil rfl
    | there reply hrest =>
      refine Keeps.cons ?_ hfair fun hfair => ih reply hown hfair hrest
      intro hconcerns
      obtain rfl : d = c := by simpa using hconcerns
      exact ⟨hown hd, by simp⟩
  | statement hcall hunbound _ ih =>
    refine Keeps.afterwards h hfair ?_ fun o hsecond hfair => ih o hown hfair hsecond
    intro told m hfirst hfair
    exact keeps_of_statement hcall hunbound hfirst hfair
  | @transaction own _ _ work _ hcall _ _ ihwork ih =>
    refine Keeps.afterwards h hfair ?_ fun o hsecond hfair => ih o hown hfair hsecond
    intro told m hfirst hfair
    refine keeps_of_transaction hcall (fun hfair => ihwork c (fun _ => rfl) hfair) ?_ hfirst hfair
    intro d told m hd hfair
    refine ihwork d ?_ hfair
    intro hmem
    rcases List.mem_cons.mp hmem with heq | hmem
    · exact absurd heq.symm hd
    · exact hown hmem

/-- The leases that a connection sees of a task, as they are cut; and whether it is out. -/
theorem Keeps.exists_cuts (h : Keeps calls c false told finished) :
    ∃ leases part, cuts id c told = (leases, part) ∧
      (∀ l ∈ leases, ∃ conversation, conversation <:+: told ∧ Lease calls c conversation l) ∧
      (part = [] ∧ ModelStore.lent c false told = false ∨
        ¬finished ∧ Opens calls c told part ∧ ModelStore.lent c false told = true) := by
  obtain ⟨leases, part, hseen, hleases, hpart⟩ := h.leases rfl
  have hlease : ∀ l ∈ leases, ∃ conversation, Lease calls c conversation l := by
    intro l hl
    obtain ⟨conversation, -, hlease⟩ := hleases l hl
    exact ⟨conversation, hlease⟩
  have hclosed : ∀ l ∈ leases, Closed (Answered.gives c) l := by
    intro l hl
    obtain ⟨conversation, hlease⟩ := hlease l hl
    exact hlease.closed
  have hlent : ModelStore.lent c false told = ModelStore.lent c false part := by
    rw [← lent_seen, hseen, lent_append, lent_flatten hlease]
  rcases hpart with rfl | ⟨hgoing, hopens⟩
  · have hnone : ∀ a ∈ ([] : List Answered), a.gives c = false := by simp
    have hcuts := sections_unique hclosed hnone
    rw [← hseen] at hcuts
    exact ⟨leases, [], hcuts, hleases, Or.inl ⟨rfl, hlent⟩⟩
  · obtain ⟨statements, hbegins, hstatements⟩ := hopens.begins
    have hopen : ∀ a ∈ part, a.gives c = false := by
      intro a ha
      rw [hbegins] at ha
      rcases List.mem_cons.mp ha with rfl | ha
      · rfl
      · exact Answered.speaks_not_gives (hstatements a ha)
    have hcuts := sections_unique hclosed hopen
    rw [← hseen] at hcuts
    refine ⟨leases, part, hcuts, hleases, Or.inr ⟨hgoing, hopens, ?_⟩⟩
    have hstays : ModelStore.lent c true statements = true :=
      lent_of_speaks (by rwa [seen_of_speaks hstatements])
    rw [hlent, hbegins]
    simpa [ModelStore.lent, Answered.lends] using hstays

/-- **Nobody uses or gives back what is not theirs**: a task that does has the connection. -/
theorem Keeps.cuts_ne_nil {a : Answered} (h : Keeps calls c false (told ++ [a]) finished)
    (hconcerns : a.concerns c = true) (htakes : a.takes c = false) : (cuts id c told).2 ≠ [] := by
  intro hnone
  obtain ⟨leases, part, hcuts, hleases, hpart⟩ := h.exists_cuts
  have hcut : cuts id c (told ++ [a]) =
      if a.gives c then ((cuts id c told).1 ++ [(cuts id c told).2 ++ [a]], [])
      else ((cuts id c told).1, (cuts id c told).2 ++ [a]) := cuts_of_concerns hconcerns
  rw [hcuts, hnone, List.nil_append] at hcut
  cases hgives : a.gives c with
  | true =>
    -- a lease is more than giving the connection back
    rw [if_pos hgives, Prod.mk.injEq] at hcut
    obtain ⟨conversation, -, hlease⟩ := hleases [a] (by simp [hcut.1])
    obtain ⟨statements, released, hbracket, -⟩ := hlease.bracket
    exact absurd (congrArg List.length hbracket) (by simp)
  | false =>
    -- and it begins with getting it
    rw [if_neg (by simp [hgives]), Prod.mk.injEq] at hcut
    rcases hpart with ⟨hnil, -⟩ | ⟨-, hopens, -⟩
    · exact absurd (hcut.2.symm.trans hnil) (by simp)
    · obtain ⟨statements, hbegins, -⟩ := hopens.begins
      rw [hcut.2, List.cons.injEq] at hbegins
      rw [hbegins.1] at htakes
      exact absurd htakes (by simp)

end Task

end ModelStore

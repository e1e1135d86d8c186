import ModelStore.Storage.Lease

/-!
# Transcripts of dialogues

`Dialogue.run` records what storage *sees* of a run, and that is not the whole conversation: storage does
not see the clock being read or the pool being looked for, and an `Exchange` does not say whether what was
asked for succeeded. A **transcript** is the whole conversation: every request with the reply it got.

There are two ways to have one, and both are needed:

* `Dialogue.transcript` is a function of the storage that answers, `run_exchanges` says that what storage
  sees is read off it, and so a statement about transcripts is a statement about runs.
* `Dialogue.Leads d told d'` is a relation that knows of no storage: the replies in `told` lead from `d` to
  `d'`. Several dialogues that take turns at one storage each go along such a path of their own, whatever
  order they take turns in. `Dialogue.Runs` is the path that goes to the end.

**The law everything else rests on is `runs_afterwards`**: the transcript of one dialogue after another is
the transcript of the first, then that of the second.
-/

namespace ModelStore

structure Answered where
  request : Request
  reply : Except Fault request.Reply

namespace Answered

def exchanges (a : Answered) : List Exchange := a.request.exchanges a.reply

def acquired (c : Connection) : Answered := ⟨.acquire, .ok c⟩

abbrev sent (c : Connection) (sql : String) (arguments : List Value) (reply : Except Fault Outcome) :
    Answered := ⟨.execute c sql arguments, reply⟩

abbrev released (c : Connection) (reply : Except Fault Unit) : Answered := ⟨.release c, reply⟩

def Failed (a : Answered) : Prop := ∃ fault, a.reply = .error fault

/-- A statement that is sent, to whatever connection. -/
def isStatement (a : Answered) : Bool :=
  match a.request with
  | .execute .. => true
  | _ => false

end Answered

namespace Dialogue

variable {α β σ : Type}

/-! ## The conversation with a storage -/

def transcript (storage : Storage σ) : Dialogue α → σ → List Answered
  | done _, _ => []
  | ask q next, s =>
    let (reply, s) := storage.answer q s
    ⟨q, reply⟩ :: (next reply).transcript storage s

/-- What storage sees of a run is what it sees of each request and its reply. -/
theorem run_exchanges (storage : Storage σ) (d : Dialogue α) (s : σ) :
    (d.run storage s).exchanges = (d.transcript storage s).flatMap Answered.exchanges := by
  induction d generalizing s with
  | done outcome => rfl
  | ask q next ih => simp only [run, transcript, List.flatMap_cons, ih, Answered.exchanges]

/-! ## Paths through a dialogue -/

/-- The conversation `told` leads from the first dialogue to the second. -/
inductive Leads : Dialogue α → List Answered → Dialogue α → Prop
  | here (d : Dialogue α) : Leads d [] d
  | there {q : Request} {next : Except Fault q.Reply → Dialogue α} {told : List Answered}
      {d : Dialogue α} (reply : Except Fault q.Reply) (rest : Leads (next reply) told d) :
      Leads (ask q next) (⟨q, reply⟩ :: told) d

/-- The conversation `told` leads to the end of the dialogue, with the given outcome. -/
def Runs (d : Dialogue α) (told : List Answered) (outcome : Except Fault α) : Prop :=
  Leads d told (done outcome)

theorem runs_transcript (storage : Storage σ) (d : Dialogue α) (s : σ) :
    Runs d (d.transcript storage s) (d.run storage s).outcome := by
  induction d generalizing s with
  | done outcome => exact Leads.here _
  | ask q next ih => exact Leads.there _ (ih _ _)

theorem Leads.trans {d e f : Dialogue α} {first second : List Answered} (h : Leads d first e)
    (h' : Leads e second f) : Leads d (first ++ second) f := by
  induction h with
  | here d => exact h'
  | there reply _ ih => exact Leads.there reply (ih h')

theorem Leads.further {d : Dialogue α} {q : Request} {next : Except Fault q.Reply → Dialogue α}
    {told : List Answered} (h : Leads d told (ask q next)) (reply : Except Fault q.Reply) :
    Leads d (told ++ [⟨q, reply⟩]) (next reply) :=
  h.trans (Leads.there reply (Leads.here _))

theorem Leads.split {d e : Dialogue α} {first second : List Answered} (h : Leads d (first ++ second) e) :
    ∃ m, Leads d first m ∧ Leads m second e := by
  induction first generalizing d with
  | nil => exact ⟨d, Leads.here d, h⟩
  | cons a first ih =>
    cases h with
    | there reply rest =>
      obtain ⟨m, hfirst, hsecond⟩ := ih rest
      exact ⟨m, Leads.there reply hfirst, hsecond⟩

theorem leads_done {o : Except Fault α} {e : Dialogue α} {told : List Answered} :
    Leads (done o) told e ↔ told = [] ∧ e = done o := by
  constructor
  · intro h
    cases h with
    | here => exact ⟨rfl, rfl⟩
  · rintro ⟨rfl, rfl⟩
    exact Leads.here _

/-- **Wherever a dialogue has come to, it can still come to its end**, and even if everything it asks for
from then on is refused. A statement about whole runs therefore says something about every moment of one. -/
theorem exists_runs_failing (d : Dialogue α) :
    ∃ told outcome, Runs d told outcome ∧ ∀ a ∈ told, a.Failed := by
  induction d with
  | done outcome => exact ⟨[], outcome, Leads.here _, by simp⟩
  | ask q next ih =>
    -- any failure would do
    obtain ⟨told, outcome, hruns, hfailed⟩ := ih (.error .abandoned)
    refine ⟨_ :: told, outcome, Leads.there (.error .abandoned) hruns, ?_⟩
    intro a ha
    rcases List.mem_cons.mp ha with rfl | ha
    · exact ⟨.abandoned, rfl⟩
    · exact hfailed a ha

/-- So a path goes on to the end; it goes on for nothing exactly if it is there already. -/
theorem Leads.finish {d m : Dialogue α} {told : List Answered} (h : Leads d told m) :
    ∃ rest outcome, Runs d (told ++ rest) outcome ∧ (∀ a ∈ rest, a.Failed) ∧
      (rest = [] ↔ ∃ o, m = done o) := by
  obtain ⟨rest, outcome, hruns, hfailed⟩ := exists_runs_failing m
  refine ⟨rest, outcome, h.trans hruns, hfailed, ?_⟩
  constructor
  · rintro rfl
    cases hruns with
    | here => exact ⟨outcome, rfl⟩
  · rintro ⟨o, rfl⟩
    exact (leads_done.mp hruns).1

/-! ## The runs of compound dialogues -/

theorem runs_done {o outcome : Except Fault α} {told : List Answered} :
    Runs (done o) told outcome ↔ told = [] ∧ outcome = o := by
  unfold Runs
  rw [leads_done, done.injEq]

theorem runs_ask {q : Request} {next : Except Fault q.Reply → Dialogue α} {told : List Answered}
    {outcome : Except Fault α} :
    Runs (ask q next) told outcome ↔
      ∃ reply rest, told = ⟨q, reply⟩ :: rest ∧ Runs (next reply) rest outcome := by
  constructor
  · intro h
    cases h with
    | there reply rest => exact ⟨reply, _, rfl, rest⟩
  · rintro ⟨reply, rest, rfl, h⟩
    exact Leads.there reply h

/-- On the way through one dialogue after another, the first is under way, or it is over and the second
is. -/
theorem leads_afterwards {d : Dialogue α} {next : Except Fault α → Dialogue β} {told : List Answered}
    {e : Dialogue β} (h : Leads (d.afterwards next) told e) :
    (∃ m, Leads d told m ∧ (∀ o, m ≠ done o) ∧ ∀ o, e ≠ done o) ∨
    ∃ first middle second, told = first ++ second ∧ Runs d first middle ∧ Leads (next middle) second e := by
  induction d generalizing told with
  | done o => exact Or.inr ⟨[], o, told, rfl, Leads.here _, h⟩
  | ask q replies ih =>
    cases h with
    | here => exact Or.inl ⟨_, Leads.here _, by simp, by simp [afterwards]⟩
    | there reply rest =>
      rcases ih reply rest with ⟨m, hm, hgoing⟩ | ⟨first, middle, second, rfl, hfirst, hsecond⟩
      · exact Or.inl ⟨m, Leads.there reply hm, hgoing⟩
      · exact Or.inr ⟨_ :: first, middle, second, rfl, Leads.there reply hfirst, hsecond⟩

/-- A run of one dialogue after another is a run of the first and a run of what its outcome leads to. -/
theorem runs_afterwards {d : Dialogue α} {next : Except Fault α → Dialogue β} {told : List Answered}
    {outcome : Except Fault β} :
    Runs (d.afterwards next) told outcome ↔
      ∃ first middle second, told = first ++ second ∧ Runs d first middle
        ∧ Runs (next middle) second outcome := by
  induction d generalizing told with
  | done o =>
    simp only [afterwards, runs_done]
    constructor
    · intro h
      exact ⟨[], o, told, rfl, ⟨rfl, rfl⟩, h⟩
    · rintro ⟨_, _, second, rfl, ⟨rfl, rfl⟩, h⟩
      exact h
  | ask q replies ih =>
    simp only [afterwards, runs_ask]
    constructor
    · rintro ⟨reply, rest, rfl, h⟩
      obtain ⟨first, middle, second, rfl, hfirst, hsecond⟩ := (ih reply).mp h
      exact ⟨_ :: first, middle, second, rfl, ⟨reply, first, rfl, hfirst⟩, hsecond⟩
    · rintro ⟨_, middle, second, rfl, ⟨reply, first, rfl, hfirst⟩, hsecond⟩
      exact ⟨reply, first ++ second, rfl, (ih reply).mpr ⟨first, middle, second, rfl, hfirst, hsecond⟩⟩

theorem runs_andThen {d : Dialogue α} {next : α → Dialogue β} {told : List Answered}
    {outcome : Except Fault β} :
    Runs (d.andThen next) told outcome ↔
      (∃ fault, Runs d told (.error fault) ∧ outcome = .error fault) ∨
      ∃ x first second, told = first ++ second ∧ Runs d first (.ok x)
        ∧ Runs (next x) second outcome := by
  unfold andThen
  rw [runs_afterwards]
  constructor
  · rintro ⟨first, middle, second, rfl, hfirst, hsecond⟩
    cases middle with
    | ok x => exact Or.inr ⟨x, first, second, rfl, hfirst, hsecond⟩
    | error fault =>
      -- the rest of the conversation is empty
      obtain ⟨rfl, rfl⟩ := runs_done.mp hsecond
      exact Or.inl ⟨fault, by simpa using hfirst, rfl⟩
  · rintro (⟨fault, hfirst, rfl⟩ | ⟨x, first, second, rfl, hfirst, hsecond⟩)
    · exact ⟨told, .error fault, [], by simp, hfirst, Leads.here _⟩
    · exact ⟨first, .ok x, second, rfl, hfirst, hsecond⟩

theorem runs_ok {x : α} {told : List Answered} {outcome : Except Fault α} :
    Runs (ok x) told outcome ↔ told = [] ∧ outcome = .ok x := runs_done

theorem runs_fail {fault : Fault} {told : List Answered} {outcome : Except Fault α} :
    Runs (fail fault) told outcome ↔ told = [] ∧ outcome = .error fault := runs_done

theorem runs_request {q : Request} {told : List Answered} {outcome : Except Fault q.Reply} :
    Runs (request q) told outcome ↔ told = [⟨q, outcome⟩] := by
  unfold request
  rw [runs_ask]
  constructor
  · rintro ⟨reply, rest, rfl, h⟩
    obtain ⟨rfl, rfl⟩ := runs_done.mp h
    rfl
  · rintro rfl
    exact ⟨outcome, [], rfl, Leads.here _⟩

/-! ## Leases -/

/-- The outcome of giving a connection back after something: its own failure, if it fails. -/
def afterRelease (released : Except Fault Unit) (outcome : Except Fault α) : Except Fault α :=
  match released with
  | .ok _ => outcome
  | .error fault => .error fault

theorem runs_releasing {c : Connection} {o outcome : Except Fault α} {told : List Answered} :
    Runs (releasing c o) told outcome ↔
      ∃ released, told = [.released c released] ∧ outcome = afterRelease released o := by
  unfold releasing
  rw [runs_afterwards]
  constructor
  · rintro ⟨first, middle, second, rfl, hfirst, hsecond⟩
    obtain rfl := runs_request.mp hfirst
    refine ⟨middle, ?_⟩
    cases middle with
    | ok _ =>
      obtain ⟨rfl, rfl⟩ := runs_done.mp hsecond
      exact ⟨rfl, rfl⟩
    | error fault =>
      obtain ⟨rfl, rfl⟩ := runs_done.mp hsecond
      exact ⟨rfl, rfl⟩
  · rintro ⟨released, rfl, rfl⟩
    refine ⟨[.released c released], released, [], rfl, runs_request.mpr rfl, ?_⟩
    cases released with
    | ok _ => exact Leads.here _
    | error fault => exact Leads.here _

/-- **A lease is a bracket**: getting the connection, what is done with it, giving it back. -/
theorem runs_leased {body : Connection → Dialogue α} {told : List Answered}
    {outcome : Except Fault α} :
    Runs (leased body) told outcome ↔
      (∃ fault, told = [⟨.acquire, .error fault⟩] ∧ outcome = .error fault) ∨
      ∃ c middle o released, told = .acquired c :: middle ++ [.released c released]
        ∧ Runs (body c) middle o ∧ outcome = afterRelease released o := by
  unfold leased
  rw [runs_andThen]
  constructor
  · rintro (⟨fault, hacquire, rfl⟩ | ⟨c, first, second, rfl, hacquire, hsecond⟩)
    · exact Or.inl ⟨fault, runs_request.mp hacquire, rfl⟩
    · obtain rfl := runs_request.mp hacquire
      obtain ⟨middle, o, last, rfl, hmiddle, hlast⟩ := runs_afterwards.mp hsecond
      obtain ⟨released, rfl, rfl⟩ := runs_releasing.mp hlast
      exact Or.inr ⟨c, middle, o, released, rfl, hmiddle, rfl⟩
  · rintro (⟨fault, rfl, rfl⟩ | ⟨c, middle, o, released, rfl, hmiddle, rfl⟩)
    · exact Or.inl ⟨fault, runs_request.mpr rfl, rfl⟩
    · refine Or.inr ⟨c, [.acquired c], middle ++ [.released c released], rfl, runs_request.mpr rfl, ?_⟩
      exact runs_afterwards.mpr
        ⟨middle, o, _, rfl, hmiddle, runs_releasing.mpr ⟨released, rfl, rfl⟩⟩

end Dialogue
end ModelStore

import Mathlib.Data.List.Induction
import Mathlib.Logic.Function.Basic
import ModelStore.Proofs.Storage.Transcript

/-!
# Dialogues that take turns

Several tasks talk to one storage at the same time. Each waits for its replies, and while it waits the
others go on; so what happens is an *interleaving*: one request with its reply after another, each by one of
the tasks, in any order whatsoever. `Turns` are the interleavings, and a log of them says whose turn each
was.

A turn is a request with its reply at once, although between the two other tasks may have theirs. Nothing
is lost by it. A request counts as made when storage acts on it: a statement when the connection gets it, a
connection's return when the pool has it back, an acquisition when the connection is handed out. The task
itself goes on at any later turn.

**The one thing that the tasks rely on is the pool's promise**: a connection that is out is not handed out.
It is out from the moment it is handed out until somebody gives it back, successfully or not; `lent` says
so of a conversation. A single task's conversation keeps the promise, too, as far as it goes (`Fair`).

What one connection sees falls into `sections`, each up to and with the return of the connection, and what
has come since the last return.
-/

namespace ModelStore

namespace Answered

variable (c : Connection)

/-! ## What a connection sees -/

def takes : Answered → Bool
  | ⟨.acquire, .ok d⟩ => d == c
  | _ => false

def speaks : Answered → Bool
  | ⟨.execute d _ _, _⟩ => d == c
  | _ => false

def gives : Answered → Bool
  | ⟨.release d, _⟩ => d == c
  | _ => false

def concerns (a : Answered) : Bool := a.takes c || a.speaks c || a.gives c

/-- Whether the connection is out, if it was before or was not. -/
def lends (out : Bool) (a : Answered) : Bool :=
  if a.takes c then true else if a.gives c then false else out

@[simp] theorem takes_acquired (d : Connection) : (acquired d).takes c = (d == c) := rfl
@[simp] theorem speaks_acquired (d : Connection) : (acquired d).speaks c = false := rfl
@[simp] theorem gives_acquired (d : Connection) : (acquired d).gives c = false := rfl
@[simp] theorem takes_sent (d : Connection) (sql : String) (arguments : List Value)
    (reply : Except Fault Outcome) : (sent d sql arguments reply).takes c = false := rfl
@[simp] theorem speaks_sent (d : Connection) (sql : String) (arguments : List Value)
    (reply : Except Fault Outcome) : (sent d sql arguments reply).speaks c = (d == c) := rfl
@[simp] theorem gives_sent (d : Connection) (sql : String) (arguments : List Value)
    (reply : Except Fault Outcome) : (sent d sql arguments reply).gives c = false := rfl
@[simp] theorem takes_released (d : Connection) (reply : Except Fault Unit) :
    (released d reply).takes c = false := rfl
@[simp] theorem speaks_released (d : Connection) (reply : Except Fault Unit) :
    (released d reply).speaks c = false := rfl
@[simp] theorem gives_released (d : Connection) (reply : Except Fault Unit) :
    (released d reply).gives c = (d == c) := rfl
@[simp] theorem concerns_clock (reply : Except Fault Int) :
    concerns c ⟨.clock, reply⟩ = false := rfl
@[simp] theorem concerns_pool (reply : Except Fault Unit) : concerns c ⟨.pool, reply⟩ = false := rfl
@[simp] theorem concerns_refused (fault : Fault) : concerns c ⟨.acquire, .error fault⟩ = false := rfl
@[simp] theorem concerns_acquired (d : Connection) : (acquired d).concerns c = (d == c) := by
  simp [concerns]
@[simp] theorem concerns_sent (d : Connection) (sql : String) (arguments : List Value)
    (reply : Except Fault Outcome) : (sent d sql arguments reply).concerns c = (d == c) := by
  simp [concerns]
@[simp] theorem concerns_released (d : Connection) (reply : Except Fault Unit) :
    (released d reply).concerns c = (d == c) := by
  simp [concerns]

variable {c}

theorem Failed.takes {a : Answered} (h : a.Failed) : a.takes c = false := by
  obtain ⟨q, reply⟩ := a
  obtain ⟨fault, hreply⟩ := h
  obtain rfl : reply = .error fault := hreply
  cases q <;> rfl

theorem gives_of_takes {a : Answered} (h : a.takes c = true) : a.gives c = false := by
  obtain ⟨q, reply⟩ := a
  cases q <;> first | rfl | exact absurd h (by simp [Answered.takes])

theorem concerns_of_speaks {a : Answered} {d : Connection} (h : a.speaks d = true) :
    a.concerns c = (d == c) := by
  obtain ⟨q, reply⟩ := a
  cases q with
  | execute e sql arguments =>
    obtain rfl : e = d := by simpa [speaks] using h
    exact concerns_sent c e sql arguments reply
  | _ => exact absurd h (by simp [speaks])

theorem speaks_not_takes {a : Answered} (h : a.speaks c = true) : a.takes c = false := by
  obtain ⟨q, reply⟩ := a
  cases q <;> first | rfl | exact absurd h (by simp [Answered.speaks])

theorem speaks_not_gives {a : Answered} (h : a.speaks c = true) : a.gives c = false := by
  obtain ⟨q, reply⟩ := a
  cases q <;> first | rfl | exact absurd h (by simp [Answered.speaks])

end Answered

section Connections

variable {c : Connection} {out : Bool} {a : Answered} {told first second : List Answered}

/-- What a connection sees of a conversation. -/
def seen (c : Connection) (told : List Answered) : List Answered := told.filter (Answered.concerns c)

def lent (c : Connection) (out : Bool) (told : List Answered) : Bool :=
  told.foldl (Answered.lends c) out

/-- In the conversation the connection is handed out only when it is not out. -/
def Fair (c : Connection) : Bool → List Answered → Prop
  | _, [] => True
  | out, a :: rest => (a.takes c = true → out = false) ∧ Fair c (a.lends c out) rest

theorem seen_nil : seen c [] = [] := rfl

theorem seen_append : seen c (first ++ second) = seen c first ++ seen c second := List.filter_append ..

theorem seen_eq_nil : seen c told = [] ↔ ∀ a ∈ told, a.concerns c = false := by
  simp [seen, List.filter_eq_nil_iff]

theorem lent_append : lent c out (first ++ second) = lent c (lent c out first) second :=
  List.foldl_append

theorem fair_append :
    Fair c out (first ++ second) ↔ Fair c out first ∧ Fair c (lent c out first) second := by
  induction first generalizing out with
  | nil => simp [Fair, lent]
  | cons a first ih => simp [Fair, lent, ih, and_assoc]

/-- If nothing is handed out, nothing is unfair. -/
theorem fair_of_failed (h : ∀ a ∈ told, a.Failed) : Fair c out told := by
  induction told generalizing out with
  | nil => trivial
  | cons a told ih =>
    refine ⟨?_, ih fun a ha => h a (List.mem_cons_of_mem _ ha)⟩
    intro htakes
    rw [(h a List.mem_cons_self).takes] at htakes
    exact absurd htakes (by simp)

theorem lends_of_not_concerns (h : a.concerns c = false) : a.lends c out = out := by
  simp only [Answered.concerns, Bool.or_eq_false_iff] at h
  simp only [Answered.lends, h, Bool.false_eq_true, if_false]

theorem seen_cons : seen c (a :: told) = if a.concerns c then a :: seen c told else seen c told :=
  List.filter_cons

/-- Whether a connection is out depends on nothing but what it sees. -/
theorem lent_seen : lent c out (seen c told) = lent c out told := by
  induction told generalizing out with
  | nil => rfl
  | cons a told ih =>
    rw [seen_cons]
    cases hconcerns : a.concerns c with
    | true => exact ih
    | false =>
      simp only [Bool.false_eq_true, if_false]
      rw [ih, lent, lent, List.foldl_cons, lends_of_not_concerns hconcerns]

/-- And so does whether it is handed out properly. -/
theorem fair_seen : Fair c out (seen c told) ↔ Fair c out told := by
  induction told generalizing out with
  | nil => rfl
  | cons a told ih =>
    rw [seen_cons]
    cases hconcerns : a.concerns c with
    | true => exact and_congr Iff.rfl ih
    | false =>
      have htakes : a.takes c = false := by
        simp only [Answered.concerns, Bool.or_eq_false_iff] at hconcerns
        exact hconcerns.1.1
      simp only [Bool.false_eq_true, if_false]
      rw [ih, Fair, lends_of_not_concerns hconcerns, htakes]
      simp

theorem lent_of_speaks (h : ∀ a ∈ seen c told, a.speaks c = true) : lent c out told = out := by
  rw [← lent_seen]
  generalize seen c told = saw at h
  induction saw with
  | nil => rfl
  | cons a saw ih =>
    have hspeaks := h a List.mem_cons_self
    simp only [lent, List.foldl_cons, Answered.lends, Answered.speaks_not_takes hspeaks,
      Answered.speaks_not_gives hspeaks, Bool.false_eq_true, if_false]
    exact ih fun a ha => h a (List.mem_cons_of_mem _ ha)

theorem seen_of_speaks (h : ∀ a ∈ told, a.speaks c = true) : seen c told = told := by
  refine List.filter_eq_self.mpr ?_
  intro a ha
  rw [Answered.concerns_of_speaks (h a ha)]
  simp

theorem seen_of_speaks_of_ne {d : Connection} (hd : d ≠ c) (h : ∀ a ∈ told, a.speaks d = true) :
    seen c told = [] := by
  refine seen_eq_nil.mpr ?_
  intro a ha
  rw [Answered.concerns_of_speaks (h a ha)]
  simpa using hd

theorem seen_eq_filter_speaks (h : ∀ a ∈ seen c told, a.speaks c = true) :
    seen c told = told.filter (Answered.speaks c) := by
  refine List.filter_congr ?_
  intro a ha
  cases hspeaks : a.speaks c with
  | true => rw [Answered.concerns_of_speaks hspeaks]; simp
  | false =>
    -- what the connection sees of it would be a statement
    by_contra hconcerns
    have hseen : a ∈ seen c told := List.mem_filter.mpr ⟨ha, by simpa using hconcerns⟩
    exact absurd (h a hseen) (by simp [hspeaks])

end Connections

/-! ## Sections -/

section Sections

variable {γ : Type} (closes : γ → Bool)

/-- Cuts a list after each element that closes a section; gives the sections, and what is left. -/
def sections (xs : List γ) : List (List γ) × List γ :=
  xs.foldl (fun (cut, part) x =>
    if closes x then (cut ++ [part ++ [x]], []) else (cut, part ++ [x])) ([], [])

variable {closes}

theorem sections_concat (xs : List γ) (x : γ) :
    sections closes (xs ++ [x]) =
      if closes x then ((sections closes xs).1 ++ [(sections closes xs).2 ++ [x]], [])
      else ((sections closes xs).1, (sections closes xs).2 ++ [x]) := by
  simp only [sections, List.foldl_append, List.foldl_cons, List.foldl_nil]

theorem sections_flatten (xs : List γ) :
    (sections closes xs).1.flatten ++ (sections closes xs).2 = xs := by
  -- a section is closed at the end of the list, so the list is taken apart from there
  induction xs using List.reverseRecOn with
  | nil => rfl
  | append_singleton xs x ih =>
    rw [sections_concat]
    split
    · rw [List.flatten_append, List.flatten_singleton, List.append_nil, ← List.append_assoc, ih]
    · rw [← List.append_assoc, ih]

/-- A section is closed by its last element and by no other. -/
def Closed (closes : γ → Bool) (xs : List γ) : Prop :=
  ∃ init last, xs = init ++ [last] ∧ closes last = true ∧ ∀ x ∈ init, closes x = false

theorem sections_append_open {xs part : List γ} (h : ∀ x ∈ part, closes x = false) :
    sections closes (xs ++ part) = ((sections closes xs).1, (sections closes xs).2 ++ part) := by
  induction part using List.reverseRecOn with
  | nil => simp
  | append_singleton part x ih =>
    rw [← List.append_assoc, sections_concat, ih fun y hy => h y (List.mem_append_left _ hy),
      if_neg (by simp [h x (by simp)]), List.append_assoc]

theorem sections_append_closed {xs section_ : List γ} (h : Closed closes section_)
    (hxs : (sections closes xs).2 = []) :
    sections closes (xs ++ section_) = ((sections closes xs).1 ++ [section_], []) := by
  obtain ⟨init, last, rfl, hlast, hinit⟩ := h
  rw [← List.append_assoc, sections_concat, sections_append_open hinit, if_pos hlast, hxs,
    List.nil_append]

/-- **There is only one way to cut a list into sections.** -/
theorem sections_unique {cut : List (List γ)} {part : List γ} (hcut : ∀ l ∈ cut, Closed closes l)
    (hpart : ∀ x ∈ part, closes x = false) :
    sections closes (cut.flatten ++ part) = (cut, part) := by
  have hclosed : sections closes cut.flatten = (cut, []) := by
    induction cut using List.reverseRecOn with
    | nil => rfl
    | append_singleton cut l ih =>
      have hbefore := ih fun l hl => hcut l (List.mem_append_left _ hl)
      rw [List.flatten_append, List.flatten_singleton,
        sections_append_closed (hcut l (by simp)) (by rw [hbefore]), hbefore]
  rw [sections_append_open hpart, hclosed, List.nil_append]

/-- What a connection sees of some turns, cut after each of its returns. -/
def cuts (said : γ → Answered) (c : Connection) (turns : List γ) : List (List γ) × List γ :=
  sections (fun turn => (said turn).gives c) (turns.filter fun turn => (said turn).concerns c)

variable {said : γ → Answered} {c : Connection} {turns : List γ} {turn : γ}

theorem cuts_of_not_concerns (h : (said turn).concerns c = false) :
    cuts said c (turns ++ [turn]) = cuts said c turns := by
  simp [cuts, List.filter_append, h]

theorem cuts_of_concerns (h : (said turn).concerns c = true) :
    cuts said c (turns ++ [turn]) =
      if (said turn).gives c then ((cuts said c turns).1 ++ [(cuts said c turns).2 ++ [turn]], [])
      else ((cuts said c turns).1, (cuts said c turns).2 ++ [turn]) := by
  have hlast : [turn].filter (fun turn => (said turn).concerns c) = [turn] := by simp [h]
  rw [cuts, List.filter_append, hlast, sections_concat, cuts]

end Sections

/-! ## Interleavings -/

section Interleavings

open Dialogue

variable {ι : Type} [DecidableEq ι] {result : ι → Type}

/-- **The interleavings of some tasks**: what is said in turn and by whom, and where the tasks have come to.
The pool keeps its promise throughout. -/
inductive Turns (tasks : ∀ i, Dialogue (result i)) :
    List (ι × Answered) → (∀ i, Dialogue (result i)) → Prop
  | start : Turns tasks [] tasks
  | turn {log : List (ι × Answered)} {now : ∀ i, Dialogue (result i)} (h : Turns tasks log now) (i : ι)
      {q : Request} {next : Except Fault q.Reply → Dialogue (result i)} (hasks : now i = .ask q next)
      (reply : Except Fault q.Reply)
      (hpool : ∀ c, Answered.takes c ⟨q, reply⟩ = true → lent c false (log.map (·.2)) = false) :
      Turns tasks (log ++ [(i, ⟨q, reply⟩)]) (Function.update now i (next reply))

def mine (i : ι) (log : List (ι × Answered)) : List Answered :=
  (log.filter fun turn => turn.1 = i).map (·.2)

theorem mine_concat_self (i : ι) (log : List (ι × Answered)) (a : Answered) :
    mine i (log ++ [(i, a)]) = mine i log ++ [a] := by
  simp [mine]

theorem mine_concat_of_ne {i j : ι} (h : i ≠ j) (log : List (ι × Answered)) (a : Answered) :
    mine j (log ++ [(i, a)]) = mine j log := by
  simp [mine, h]

/-- **Each task goes its own way**, whatever the others do meanwhile. -/
theorem Turns.leads {tasks : ∀ i, Dialogue (result i)} {log : List (ι × Answered)}
    {now : ∀ i, Dialogue (result i)} (h : Turns tasks log now) (i : ι) :
    Leads (tasks i) (mine i log) (now i) := by
  induction h with
  | start => exact Leads.here _
  | @turn log now _ j q next hasks reply _ ih =>
    by_cases hij : j = i
    · subst hij
      rw [mine_concat_self, Function.update_self]
      exact (hasks ▸ ih).further reply
    · rw [mine_concat_of_ne hij, Function.update_of_ne (Ne.symm hij)]
      exact ih

end Interleavings
end ModelStore

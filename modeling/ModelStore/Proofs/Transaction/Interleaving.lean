import ModelStore.Proofs.Transaction.Leases

/-!
# What a connection sees of many tasks

Tasks run transactions and execute statements over one pool, and take turns in any order whatsoever. **Then
every connection sees one lease after another** (`leases_of_turns`): at every moment what it has seen is a
sequence of whole leases, each by one task and none by two, and after them at most the beginning of one more,
by a task that is still under way. They are the leases of the transactions and statements that the tasks do
run.

What a connection sees of each task alone is known (`Program.keeps`). What is left to show is that the tasks
do not get in each other's way, and that is an invariant of the turns, `Apart`: whoever has the connection is
the only one who does. Nobody is handed it meanwhile, because the pool keeps its promise; and nobody else
sends anything on it or gives it back, because nobody does that with what is not theirs
(`Keeps.cuts_ne_nil`).
-/

namespace ModelStore

open Dialogue

/-! ## Many tasks -/

section Tasks

variable {ι : Type} [DecidableEq ι] {result : ι → Type} {calls : ι → Call → Prop} {c : Connection}
  {log : List (ι × Answered)} {finished finished' : Prop}

/-- **What holds of a connection at every moment.** Each lease that it sees is one that it sees of some task
alone; if one is open it is that of one task, and the others have none; and it is out exactly as long as one
is open. -/
structure Apart (c : Connection) (log : List (ι × Answered)) : Prop where
  whole : ∀ l ∈ (cuts Prod.snd c log).1, ∃ i, ∃ l' ∈ (cuts id c (mine i log)).1, l = l'.map (i, ·)
  part : ((cuts Prod.snd c log).2 = [] ∧ ∀ i, (cuts id c (mine i log)).2 = []) ∨
    ∃ i, (cuts Prod.snd c log).2 = (cuts id c (mine i log)).2.map (i, ·) ∧
      (cuts id c (mine i log)).2 ≠ [] ∧ ∀ j, j ≠ i → (cuts id c (mine j log)).2 = []
  out : lent c false (log.map (·.2)) = false ↔ (cuts Prod.snd c log).2 = []
  fair : ∀ i, Fair c false (mine i log)

/-- A connection that is not out is nobody's. -/
theorem Apart.cuts_eq_nil (h : Apart c log) (hout : lent c false (log.map (·.2)) = false) (i : ι) :
    (cuts id c (mine i log)).2 = [] := by
  rcases h.part with ⟨-, hnone⟩ | ⟨j, hpart, hne, -⟩
  · exact hnone i
  · have hnil := h.out.mp hout
    rw [hpart, List.map_eq_nil_iff] at hnil
    exact absurd hnil hne

section Turn

variable {i : ι} {a : Answered}

theorem cuts_mine_of_ne {j : ι} (h : j ≠ i) :
    cuts id c (mine j (log ++ [(i, a)])) = cuts id c (mine j log) := by
  rw [mine_concat_of_ne (Ne.symm h)]

omit [DecidableEq ι] in
theorem lent_concat :
    lent c false ((log ++ [(i, a)]).map (·.2)) = a.lends c (lent c false (log.map (·.2))) := by
  rw [List.map_append, lent_append]
  rfl

/-- What was whole stays so. -/
theorem mem_cuts_mine {j : ι} {l : List Answered} (hl : l ∈ (cuts id c (mine j log)).1) :
    l ∈ (cuts id c (mine j (log ++ [(i, a)]))).1 := by
  by_cases hj : j = i
  · subst hj
    rw [mine_concat_self]
    cases hconcerns : a.concerns c with
    | false =>
      rw [cuts_of_not_concerns hconcerns]
      exact hl
    | true =>
      rw [cuts_of_concerns hconcerns]
      split
      · exact List.mem_append_left _ hl
      · exact hl
  · rw [cuts_mine_of_ne hj]
    exact hl

theorem Apart.whole_turn (h : Apart c log) {l : List (ι × Answered)} (hl : l ∈ (cuts Prod.snd c log).1) :
    ∃ j, ∃ l' ∈ (cuts id c (mine j (log ++ [(i, a)]))).1, l = l'.map (j, ·) := by
  obtain ⟨j, l', hl', heq⟩ := h.whole l hl
  exact ⟨j, l', mem_cuts_mine hl', heq⟩

/-- The pool's promise to all of the tasks is a promise to each. -/
theorem Apart.fair_turn (h : Apart c log) (hpool : a.takes c = true → lent c false (log.map (·.2)) = false)
    (hbefore : Keeps (calls i) c false (mine i log) finished) (j : ι) :
    Fair c false (mine j (log ++ [(i, a)])) := by
  by_cases hj : i = j
  · subst hj
    rw [mine_concat_self]
    refine fair_append.mpr ⟨h.fair i, ?_, trivial⟩
    intro htakes
    obtain ⟨leases, part, hcuts, -, hpart⟩ := hbefore.exists_cuts
    rcases hpart with ⟨-, hlent⟩ | ⟨-, hopens, -⟩
    · exact hlent
    · have hnil := h.cuts_eq_nil (hpool htakes) i
      rw [hcuts] at hnil
      exact absurd hnil hopens.1
  · rw [mine_concat_of_ne hj]
    exact h.fair j

/-- A turn that the connection does not see. -/
theorem Apart.turn_unseen (h : Apart c log) (hunseen : a.concerns c = false)
    (hfair : ∀ j, Fair c false (mine j (log ++ [(i, a)]))) : Apart c (log ++ [(i, a)]) := by
  have hcuts : cuts Prod.snd c (log ++ [(i, a)]) = cuts Prod.snd c log := cuts_of_not_concerns hunseen
  have hmine : ∀ j, cuts id c (mine j (log ++ [(i, a)])) = cuts id c (mine j log) := by
    intro j
    by_cases hj : j = i
    · subst hj
      rw [mine_concat_self]
      exact cuts_of_not_concerns hunseen
    · exact cuts_mine_of_ne hj
  refine ⟨?_, ?_, ?_, hfair⟩
  · simpa only [hcuts, hmine] using h.whole
  · simpa only [hcuts, hmine] using h.part
  · rw [hcuts, lent_concat, lends_of_not_concerns hunseen]
    exact h.out

/-- When it is a task's turn to do something with the connection, what is open is the task's: it has the
connection, or it gets it and nothing is open. -/
theorem Apart.open_mine (h : Apart c log) (hpool : a.takes c = true → lent c false (log.map (·.2)) = false)
    (howner : a.takes c = false → (cuts id c (mine i log)).2 ≠ []) :
    (cuts Prod.snd c log).2 = (cuts id c (mine i log)).2.map (i, ·) ∧
      ∀ j, j ≠ i → (cuts id c (mine j log)).2 = [] := by
  cases htakes : a.takes c with
  | true =>
    have hout := hpool htakes
    rw [h.out.mp hout, h.cuts_eq_nil hout i]
    exact ⟨rfl, fun j _ => h.cuts_eq_nil hout j⟩
  | false =>
    rcases h.part with ⟨-, hnone⟩ | ⟨j, hpart, hne, hrest⟩
    · exact absurd (hnone i) (howner htakes)
    · obtain rfl : i = j := by
        by_contra hij
        exact howner htakes (hrest i hij)
      exact ⟨hpart, hrest⟩

/-- A turn that gives the connection back. -/
theorem Apart.turn_giving (h : Apart c log) (hgives : a.gives c = true)
    (hmine : (cuts Prod.snd c log).2 = (cuts id c (mine i log)).2.map (i, ·))
    (hothers : ∀ j, j ≠ i → (cuts id c (mine j log)).2 = [])
    (hfair : ∀ j, Fair c false (mine j (log ++ [(i, a)]))) : Apart c (log ++ [(i, a)]) := by
  have hconcerns : a.concerns c = true := by simp [Answered.concerns, hgives]
  have htakes : a.takes c = false := by
    by_contra htakes
    rw [Answered.gives_of_takes (by simpa using htakes)] at hgives
    exact absurd hgives (by simp)
  have hcuts : cuts Prod.snd c (log ++ [(i, a)]) =
      ((cuts Prod.snd c log).1 ++ [(cuts Prod.snd c log).2 ++ [(i, a)]], []) :=
    (cuts_of_concerns hconcerns).trans (if_pos hgives)
  have hcutsMine : cuts id c (mine i (log ++ [(i, a)])) =
      ((cuts id c (mine i log)).1 ++ [(cuts id c (mine i log)).2 ++ [a]], []) := by
    rw [mine_concat_self]
    exact (cuts_of_concerns hconcerns).trans (if_pos hgives)
  refine ⟨?_, Or.inl ⟨by rw [hcuts], ?_⟩, ?_, hfair⟩
  · intro l hl
    rw [hcuts] at hl
    rcases List.mem_append.mp hl with hl | hl
    · exact h.whole_turn hl
    · -- the lease that has just been closed
      refine ⟨i, (cuts id c (mine i log)).2 ++ [a], by simp [hcutsMine], ?_⟩
      rw [List.mem_singleton.mp hl, hmine, List.map_append]
      rfl
  · intro j
    by_cases hj : j = i
    · rw [hj, hcutsMine]
    · rw [cuts_mine_of_ne hj, hothers j hj]
  · rw [lent_concat, hcuts]
    simp [Answered.lends, htakes, hgives]

/-- A turn after which the connection is out: it is handed out, or goes on being used. -/
theorem Apart.turn_keeping (h : Apart c log) (hconcerns : a.concerns c = true) (hgives : a.gives c = false)
    (hout : a.lends c (lent c false (log.map (·.2))) = true)
    (hmine : (cuts Prod.snd c log).2 = (cuts id c (mine i log)).2.map (i, ·))
    (hothers : ∀ j, j ≠ i → (cuts id c (mine j log)).2 = [])
    (hfair : ∀ j, Fair c false (mine j (log ++ [(i, a)]))) : Apart c (log ++ [(i, a)]) := by
  have hcuts : cuts Prod.snd c (log ++ [(i, a)]) =
      ((cuts Prod.snd c log).1, (cuts Prod.snd c log).2 ++ [(i, a)]) :=
    (cuts_of_concerns hconcerns).trans (if_neg (by simp [hgives]))
  have hcutsMine : cuts id c (mine i (log ++ [(i, a)])) =
      ((cuts id c (mine i log)).1, (cuts id c (mine i log)).2 ++ [a]) := by
    rw [mine_concat_self]
    exact (cuts_of_concerns hconcerns).trans (if_neg (by simp [hgives]))
  refine ⟨?_, Or.inr ⟨i, ?_, by simp [hcutsMine], ?_⟩, ?_, hfair⟩
  · intro l hl
    rw [hcuts] at hl
    exact h.whole_turn hl
  · rw [hcuts, hcutsMine, hmine, List.map_append]
    rfl
  · intro j hj
    rw [cuts_mine_of_ne hj]
    exact hothers j hj
  · rw [lent_concat, hout, hcuts]
    simp

/-- **One turn**: `hbefore` and `hafter` are what is known of the task whose turn it is. -/
theorem Apart.turn (h : Apart c log) (hpool : a.takes c = true → lent c false (log.map (·.2)) = false)
    (hbefore : Keeps (calls i) c false (mine i log) finished)
    (hafter : Fair c false (mine i log ++ [a]) → Keeps (calls i) c false (mine i log ++ [a]) finished') :
    Apart c (log ++ [(i, a)]) := by
  have hfair := h.fair_turn hpool hbefore
  cases hconcerns : a.concerns c with
  | false => exact h.turn_unseen hconcerns hfair
  | true =>
    have howner : a.takes c = false → (cuts id c (mine i log)).2 ≠ [] := by
      have hfairMine := hfair i
      rw [mine_concat_self] at hfairMine
      exact (hafter hfairMine).cuts_ne_nil hconcerns
    obtain ⟨hmine, hothers⟩ := h.open_mine hpool howner
    cases hgives : a.gives c with
    | true => exact h.turn_giving hgives hmine hothers hfair
    | false =>
      refine h.turn_keeping hconcerns hgives ?_ hmine hothers hfair
      cases htakes : a.takes c with
      | true => simp [Answered.lends, htakes]
      | false =>
        have hstill : lent c false (log.map (·.2)) = true := by
          by_contra hnot
          exact howner htakes (h.cuts_eq_nil (by simpa using hnot) i)
        simp [Answered.lends, htakes, hgives, hstill]

end Turn

/-- **At every moment of every interleaving a connection's leases are apart.** -/
theorem Turns.apart {tasks now : ∀ i, Dialogue (result i)}
    (hprograms : ∀ i, Program (calls i) [] (tasks i)) (h : Turns tasks log now) : Apart c log := by
  induction h with
  | start =>
    refine ⟨?_, Or.inl ⟨rfl, fun i => rfl⟩, Iff.intro (fun _ => rfl) fun _ => rfl, fun i => trivial⟩
    intro l hl
    exact absurd hl (by simp [cuts, sections])
  | @turn log now hturns i q next hasks reply hpool ih =>
    have hnow := hturns.leads i
    have hafter : Fair c false (mine i log ++ [⟨q, reply⟩]) →
        Keeps (calls i) c false (mine i log ++ [⟨q, reply⟩]) (∃ o, next reply = .done o) :=
      fun hfair => (hprograms i).keeps (by simp) hfair ((hasks ▸ hnow).further reply)
    exact ih.turn (hpool c) ((hprograms i).keeps (by simp) (ih.fair i) hnow) hafter

/-- A list of images is the image of a list. -/
theorem exists_map_eq {β γ : Type} {P : β → Prop} {f : β → γ} {ys : List γ}
    (h : ∀ y ∈ ys, ∃ x, P x ∧ y = f x) : ∃ xs : List β, ys = xs.map f ∧ ∀ x ∈ xs, P x := by
  induction ys with
  | nil => exact ⟨[], rfl, by simp⟩
  | cons y ys ih =>
    obtain ⟨x, hx, rfl⟩ := h y List.mem_cons_self
    obtain ⟨xs, rfl, hxs⟩ := ih fun y hy => h y (List.mem_cons_of_mem _ hy)
    refine ⟨x :: xs, rfl, ?_⟩
    intro z hz
    rcases List.mem_cons.mp hz with rfl | hz
    · exact hx
    · exact hxs z hz

/-- **What a connection sees, at every moment of every interleaving of the tasks**: whole leases, each of
them a call of one of the tasks from its beginning to its end, and then at most the beginning of one more,
which is the last thing that a task still under way has been at. -/
theorem leases_of_turns {tasks now : ∀ i, Dialogue (result i)}
    (hprograms : ∀ i, Program (calls i) [] (tasks i)) (h : Turns tasks log now) (c : Connection) :
    ∃ (leases : List (ι × List Answered)) (part : List (ι × Answered)),
      log.filter (fun turn => turn.2.concerns c)
        = leases.flatMap (fun lease => lease.2.map (lease.1, ·)) ++ part ∧
      (∀ lease ∈ leases, ∃ conversation, conversation <:+: mine lease.1 log ∧
        Lease (calls lease.1) c conversation lease.2) ∧
      (part = [] ∨ ∃ i begun, part = begun.map (i, ·) ∧ (∀ o, now i ≠ .done o) ∧
        Opens (calls i) c (mine i log) begun) := by
  have hapart : Apart c log := h.apart hprograms
  have hkeeps : ∀ i, Keeps (calls i) c false (mine i log) (∃ o, now i = .done o) :=
    fun i => (hprograms i).keeps (by simp) (hapart.fair i) (h.leads i)
  have hlease : ∀ i, ∀ l ∈ (cuts id c (mine i log)).1,
      ∃ conversation, conversation <:+: mine i log ∧ Lease (calls i) c conversation l := by
    intro i l hl
    obtain ⟨leases, part, hcuts, hleases, -⟩ := (hkeeps i).exists_cuts
    rw [hcuts] at hl
    exact hleases l hl
  have hwhole : ∀ l ∈ (cuts Prod.snd c log).1, ∃ lease : ι × List Answered,
      (∃ conversation, conversation <:+: mine lease.1 log ∧ Lease (calls lease.1) c conversation lease.2) ∧
        l = lease.2.map (lease.1, ·) := by
    intro l hl
    obtain ⟨i, l', hl', rfl⟩ := hapart.whole l hl
    exact ⟨(i, l'), hlease i l' hl', rfl⟩
  obtain ⟨leases, hmap, hleases⟩ := exists_map_eq hwhole
  refine ⟨leases, (cuts Prod.snd c log).2, ?_, hleases, ?_⟩
  · rw [List.flatMap_def, ← hmap]
    exact (sections_flatten _).symm
  · rcases hapart.part with ⟨hnone, -⟩ | ⟨i, hpart, hne, -⟩
    · exact Or.inl hnone
    · obtain ⟨leases', part, hcuts, -, hopen⟩ := (hkeeps i).exists_cuts
      rw [hcuts] at hpart hne
      rcases hopen with ⟨hnil, -⟩ | ⟨hgoing, hopens, -⟩
      · exact absurd hnil hne
      · exact Or.inr ⟨i, part, hpart, fun o ho => hgoing ⟨o, ho⟩, hopens⟩

/-! ### Two tasks and one connection -/

/-- A unit of work that sends one statement. -/
def sending (c : Connection) : Dialogue Outcome := request (.execute c "UPDATE \"user\" SET \"n\" = 1" [])

/-- A statement that is not bound to a connection. -/
def reading : Statement where
  sql := some "SELECT * FROM \"user\""
  arguments := []
  model := none
  mode := .raw
  single := false
  population := none
  interceptors := []
  connection := none

def Both : Bool → Type
  | true => Outcome
  | false => Answer

/-- One task runs the transaction, the other executes the statement. -/
def both : ∀ b, Dialogue (Both b)
  | true => Transaction.run sending
  | false => reading.execute

def bothCalls : Bool → Call → Prop
  | true => fun call => call = .transaction sending
  | false => fun call => call = .statement reading

/-- The turns of the two, over a pool with one connection: the statement waits for the transaction. -/
def bothTurns : List (Bool × Answered) :=
  [(true, ⟨.pool, .ok ()⟩), (true, .acquired "c0"), (false, ⟨.clock, .ok 1000⟩),
    (true, .sent "c0" "BEGIN" [] (.ok .empty)), (false, ⟨.pool, .ok ()⟩),
    (true, .sent "c0" "UPDATE \"user\" SET \"n\" = 1" [] (.ok .empty)),
    (true, .sent "c0" "COMMIT" [] (.ok .empty)), (true, .released "c0" (.ok ())),
    (false, .acquired "c0")]

theorem turns_both : ∃ now, Turns both bothTurns now := by
  have hnot : ∀ {b : Bool} {P : Prop}, b = false → b = true → P :=
    fun hb h => absurd (hb.symm.trans h) (by simp)
  have h : Turns both [] both := .start
  have h := h.turn true rfl (.ok ()) fun _ => hnot rfl
  have h := h.turn true rfl (.ok "c0") fun _ _ => rfl
  have h := h.turn false rfl (.ok 1000) fun _ => hnot rfl
  have h := h.turn true rfl (.ok .empty) fun _ => hnot rfl
  have h := h.turn false rfl (.ok ()) fun _ => hnot rfl
  have h := h.turn true rfl (.ok .empty) fun _ => hnot rfl
  have h := h.turn true rfl (.ok .empty) fun _ => hnot rfl
  have h := h.turn true rfl (.ok ()) fun _ => hnot rfl
  have h := h.turn false rfl (.ok "c0") fun c htakes => by
    obtain rfl : "c0" = c := by simpa [Answered.takes] using htakes
    rfl
  exact ⟨_, h⟩

theorem programs_both : ∀ b, Program (bothCalls b) [] (both b)
  | true => .of_transaction rfl fun _ => .send List.mem_cons_self .done
  | false => @Program.of_statement (bothCalls false) [] reading rfl rfl

/-- The connection has seen the transaction's lease, and getting it for the statement. -/
theorem leases_of_both :
    ∃ now, Turns both bothTurns now ∧
      ∃ (leases : List (Bool × List Answered)) (part : List (Bool × Answered)),
        bothTurns.filter (fun turn => turn.2.concerns "c0")
          = leases.flatMap (fun lease => lease.2.map (lease.1, ·)) ++ part ∧
        (∀ lease ∈ leases, ∃ conversation, conversation <:+: mine lease.1 bothTurns ∧
          Lease (bothCalls lease.1) "c0" conversation lease.2) ∧
        (part = [] ∨ ∃ i begun, part = begun.map (i, ·) ∧ (∀ o, now i ≠ .done o) ∧
          Opens (bothCalls i) "c0" (mine i bothTurns) begun) := by
  obtain ⟨now, h⟩ := turns_both
  exact ⟨now, h, leases_of_turns programs_both h "c0"⟩

end Tasks
end ModelStore

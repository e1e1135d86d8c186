import ModelStore.Sorting.Merge

/-!
# Piling up runs

A sort finds its runs one after the other and puts them on a pile, on which neighbours are merged. Which
neighbours, and when, is told by the levels of the boundaries between them: halve the whole, halve the
halves, and so on; the level of a boundary is the first of these cuts that separates the middles of the two
runs. Deeper boundaries are closed first, so that runs of similar length meet.

Nothing is lost and nothing is added (`push_perm`, `collapse_perm`).
-/

namespace ModelStore.Sorting

variable {α ε : Type} (before : α → α → Except ε Bool)

/-- A sorted run, and the level of the boundary ahead of it. -/
structure Run (α : Type) where
  level : Nat
  items : List α

/-- The runs found so far, the last one first, and the patience of the sort. -/
structure Pile (α : Type) where
  runs : List (Run α)
  patience : Nat

/-- The level of the boundary between two neighbouring runs, of which the first starts after so many
items: the first binary digit in which their middles, as fractions of the whole, differ. -/
def level (whole start first second : Nat) : Nat :=
  let digits (middle place : Nat) : Nat := middle * Nat.pow 2 place / whole
  ((List.range whole).find? fun place =>
    digits (2 * start + first) place ≠ digits (2 * start + 2 * first + second) place).getD whole

namespace Pile

/-- Merges the last run with those ahead of it as long as the boundary between them is deeper than a
level. -/
def close (level patience : Nat) (last : Run α) : List (Run α) → Except ε (Pile α)
  | [] => .ok ⟨[last], patience⟩
  | run :: runs =>
    if level < last.level then do
      let (merged, patience) ← mergeRuns before patience run.items last.items
      close level patience ⟨run.level, merged⟩ runs
    else .ok ⟨last :: run :: runs, patience⟩

/-- Puts a run behind the others, and closes the boundaries that are deeper than the new one. -/
def push (whole : Nat) (pile : Pile α) (items : List α) : Except ε (Pile α) :=
  match pile.runs with
  | [] => .ok ⟨[⟨0, items⟩], pile.patience⟩
  | last :: runs => do
    let start := runs.foldl (fun start run => start + run.items.length) 0
    let level := level whole start last.items.length items.length
    let closed ← close before level pile.patience last runs
    .ok ⟨⟨level, items⟩ :: closed.runs, closed.patience⟩

/-- Merges all runs, from the last one on; of three, those ahead first if the first is shorter than the
last. -/
def collapse (patience : Nat) : List (Run α) → Except ε (List α)
  | [] => .ok []
  | [run] => .ok run.items
  | [last, run] => do return (← mergeRuns before patience run.items last.items).1
  | last :: run :: earlier :: runs => do
    if earlier.items.length < last.items.length then
      let (merged, patience) ← mergeRuns before patience earlier.items run.items
      collapse patience (last :: ⟨earlier.level, merged⟩ :: runs)
    else
      let (merged, patience) ← mergeRuns before patience run.items last.items
      collapse patience (⟨run.level, merged⟩ :: earlier :: runs)
termination_by runs => runs.length

/-! ## Laws -/

/-- The items of some runs. -/
def items (runs : List (Run α)) : List α := runs.flatMap Run.items

theorem close_perm {level patience : Nat} {last : Run α} {runs : List (Run α)} {pile : Pile α}
    (h : close before level patience last runs = .ok pile) :
    (items pile.runs).Perm (last.items ++ items runs) := by
  induction runs generalizing last patience with
  | nil => simp only [close, Except.ok.injEq] at h; simp [← h, items]
  | cons run runs ih =>
    unfold close at h
    split at h
    · obtain ⟨⟨merged, patience⟩, hm, h⟩ := exists_of_bind_eq_ok h
      refine (ih h).trans ?_
      refine ((mergeRuns_perm before hm).append_right _).trans ?_
      simp only [items, List.flatMap_cons, List.append_assoc]
      exact List.perm_append_comm_assoc ..
    · simp only [Except.ok.injEq] at h
      simp [← h, items]

theorem push_perm {whole : Nat} {pile next : Pile α} {run : List α}
    (h : pile.push before whole run = .ok next) : (items next.runs).Perm (run ++ items pile.runs) := by
  unfold push at h
  split at h
  · rename_i hr
    simp only [Except.ok.injEq] at h
    simp [← h, hr, items]
  · rename_i last runs hr
    obtain ⟨closed, hc, h⟩ := exists_of_bind_eq_ok h
    simp only [Except.ok.injEq] at h
    rw [← h, hr]
    exact (close_perm before hc).append_left run

theorem collapse_perm {patience : Nat} {runs : List (Run α)} {xs : List α}
    (h : collapse before patience runs = .ok xs) : xs.Perm (items runs) := by
  fun_induction collapse before patience runs generalizing xs with
  | case1 => simp_all [items]
  | case2 => simp_all [items]
  | case3 patience last run =>
    obtain ⟨⟨merged, patience⟩, hm, h⟩ := exists_of_bind_eq_ok h
    obtain rfl := Except.ok.inj h
    simpa [items] using (mergeRuns_perm before hm).trans List.perm_append_comm
  | case4 patience last run earlier runs _ ih =>
    obtain ⟨⟨merged, patience⟩, hm, h⟩ := exists_of_bind_eq_ok h
    refine (ih merged patience h).trans ?_
    simp only [items, List.flatMap_cons, ← List.append_assoc]
    refine List.Perm.append_right _ ?_
    rw [List.append_assoc]
    exact ((mergeRuns_perm before hm).trans List.perm_append_comm).append_left _
  | case5 patience last run earlier runs _ ih =>
    obtain ⟨⟨merged, patience⟩, hm, h⟩ := exists_of_bind_eq_ok h
    refine (ih merged patience h).trans ?_
    simp only [items, List.flatMap_cons, ← List.append_assoc]
    refine List.Perm.append_right _ (List.Perm.append_right _ ?_)
    exact (mergeRuns_perm before hm).trans List.perm_append_comm

end Pile

end ModelStore.Sorting

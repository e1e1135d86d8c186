import ModelStore.Sorting.Pile

/-!
# Sorting by a comparison that may fail

A comparison of values is an answer or a refusal, and it need not be an order: beside not-a-number nothing
is before anything else. What a sort then gives depends on which items it compares. This one goes through
the items once and finds the runs that are in order already, or that fall throughout and are turned round;
it makes a short run longer by putting the items after it into their places, each found by halving; and it
merges neighbouring runs so that runs of similar length meet. The first refusal ends it.

Whatever the comparison answers, nothing is lost and nothing is added (`sort_perm`).
-/

namespace ModelStore.Sorting

variable {α ε : Type} (before : α → α → Except ε Bool)

/-! ## Runs -/

/-- How many items go on with a run behind its last one: in a falling run each item is before the one
ahead of it, in the other kind none is. -/
def follow (falling : Bool) (last : α) : List α → Except ε Nat
  | [] => .ok 0
  | x :: rest => do
    if (← before x last) == falling then .ok (1 + (← follow falling x rest)) else .ok 0

/-- Puts an item into a sorted run, behind those that it is not before. -/
def insert (x : α) (xs : List α) : Except ε (List α) := do
  let place ← Side.front.halve (fun y => (before x y).map not) xs
  .ok (xs.take place ++ x :: xs.drop place)

/-- Puts items into a sorted run, one after the other. -/
def insertAll (sorted : List α) : List α → Except ε (List α)
  | [] => .ok sorted
  | x :: rest => do insertAll (← insert before x sorted) rest

/-- The sorted run that an item begins, of at least so many items if there are so many, and the number of
the items behind the first one that it takes up. -/
def firstRun (least : Nat) (x : α) : List α → Except ε (List α × Nat)
  | [] => .ok ([x], 0)
  | y :: rest => do
    let falling ← before y x
    let more := 1 + (← follow before falling y rest)
    let found := x :: (y :: rest).take more
    let added := ((y :: rest).drop more).take (least - found.length)
    let sorted ← insertAll before (if falling then found.reverse else found) added
    .ok (sorted, more + added.length)

/-- How many items a run of so many items in all has at least: their number, halved until it is below 64
and rounded up. -/
def leastRun (whole : Nat) : Nat :=
  let halvings := whole.log2 - 5
  (whole + Nat.pow 2 halvings - 1) / Nat.pow 2 halvings

/-! ## Sorting -/

/-- Finds the runs of items and puts them on a pile. -/
def pileUp (whole : Nat) (pile : Pile α) (xs : List α) : Except ε (Pile α) :=
  match xs with
  | [] => .ok pile
  | x :: rest => do
    let (run, more) ← firstRun before (leastRun whole) x rest
    pileUp whole (← pile.push before whole run) (rest.drop more)
termination_by xs.length
decreasing_by simp only [List.length_drop, List.length_cons]; omega

/-- Items in order; items of which neither is before the other stay as they were. -/
def sort (xs : List α) : Except ε (List α) := do
  let pile ← pileUp before xs.length ⟨[], worthwhile⟩ xs
  Pile.collapse before pile.patience pile.runs

/-! ## Laws -/

theorem insert_perm {x : α} {xs ys : List α} (h : insert before x xs = .ok ys) : ys.Perm (x :: xs) := by
  obtain ⟨place, -, h⟩ := exists_of_bind_eq_ok h
  simp only [Except.ok.injEq] at h
  rw [← h]
  refine List.perm_middle.trans ?_
  rw [List.take_append_drop]

theorem insertAll_perm {sorted xs ys : List α} (h : insertAll before sorted xs = .ok ys) :
    ys.Perm (sorted ++ xs) := by
  induction xs generalizing sorted with
  | nil => simp_all [insertAll]
  | cons x xs ih =>
    obtain ⟨zs, hz, h⟩ := exists_of_bind_eq_ok h
    exact (ih h).trans (((insert_perm before hz).append_right xs).trans List.perm_middle.symm)

theorem firstRun_perm {least more : Nat} {x : α} {xs run : List α}
    (h : firstRun before least x xs = .ok (run, more)) : (run ++ xs.drop more).Perm (x :: xs) := by
  cases xs with
  | nil => simp_all [firstRun]
  | cons y rest =>
    obtain ⟨falling, -, h⟩ := exists_of_bind_eq_ok h
    obtain ⟨k, -, h⟩ := exists_of_bind_eq_ok h
    obtain ⟨sorted, hs, h⟩ := exists_of_bind_eq_ok h
    simp only [Except.ok.injEq, Prod.mk.injEq] at h
    obtain ⟨rfl, rfl⟩ := h
    have hdrop (n : Nat) (zs : List α) : zs.drop (zs.take n).length = zs.drop n := by
      rw [List.length_take]
      rcases Nat.le_total n zs.length with hn | hn
      · rw [Nat.min_eq_left hn]
      · rw [Nat.min_eq_right hn, List.drop_length, List.drop_eq_nil_of_le hn]
    refine ((insertAll_perm before hs).append_right _).trans ?_
    clear hs
    generalize 1 + k = more
    rw [← List.drop_drop, hdrop, List.append_assoc, List.take_append_drop]
    have hfound (found : List α) : (if falling then found.reverse else found).Perm found := by
      split
      · exact List.reverse_perm found
      · exact .refl found
    refine ((hfound _).append_right _).trans ?_
    rw [List.cons_append, List.take_append_drop]

theorem pileUp_perm {whole : Nat} {pile next : Pile α} {xs : List α}
    (h : pileUp before whole pile xs = .ok next) :
    (Pile.items next.runs).Perm (Pile.items pile.runs ++ xs) := by
  fun_induction pileUp before whole pile xs generalizing next with
  | case1 => simp_all
  | case2 pile x rest ih =>
    obtain ⟨⟨run, more⟩, hr, h⟩ := exists_of_bind_eq_ok h
    obtain ⟨pushed, hp, h⟩ := exists_of_bind_eq_ok h
    refine (ih more pushed h).trans ?_
    refine ((Pile.push_perm before hp).append_right _).trans ?_
    rw [List.append_assoc]
    refine (List.perm_append_comm_assoc ..).trans ?_
    exact (firstRun_perm before hr).append_left _

/-- A sort neither loses nor adds an item. -/
theorem sort_perm {xs ys : List α} (h : sort before xs = .ok ys) : ys.Perm xs := by
  obtain ⟨pile, hp, h⟩ := exists_of_bind_eq_ok h
  exact (Pile.collapse_perm before h).trans (pileUp_perm before hp)

end ModelStore.Sorting

import ModelStore.Sorting.Search

/-!
# Merging neighbouring runs

Two neighbouring sorted runs become one, in which an item of the second run goes ahead of one of the first
only if it is before it. What lies in its place already stays there. The rest is merged item by item, from
the front if the first run has the fewer items left and from the back otherwise; and where one run
supplies many items in a row, by strides.

How many are many is the patience of a sort, which is handed from merge to merge: it falls while strides
pay and rises when they stop.

Nothing is lost and nothing is added (`mergeRuns_perm`).
-/

namespace ModelStore.Sorting

variable {α ε : Type} (before : α → α → Except ε Bool)

/-- The patience at first, and the least number of items that a stride must bring to pay. -/
def worthwhile : Nat := 7

/-- How a merge goes on: item by item, so many having come from the first or from the second run in a row;
by a stride through the first run; or by a stride through the second, the one through the first having
brought so many items. -/
inductive Pace where
  | steps (first second : Nat)
  | strideFirst
  | strideSecond (brought : Nat)

/-- The pace after two strides. -/
def Pace.stride (pays : Bool) : Pace := if pays then .strideFirst else .steps 0 0

/-- The patience after two strides, if there is anything left to compare. -/
def adjusted (pays : Bool) (patience : Nat) : Nat := if pays then max 1 (patience - 1) else patience + 1

/-- The pace after a step. -/
def Pace.step (patience first second : Nat) : Pace :=
  if first < patience && second < patience then .steps first second else .strideFirst

namespace Side

/-- Whether an item of the first run goes ahead of one of the second, seen from a side. -/
def ahead (side : Side) (x y : α) : Except ε Bool := (before y x).map (· == (side == .back))

/-- Nothing is left to compare, as a run is used up or has only that item left which the side puts last. -/
def settled (side : Side) (xs ys : List α) : Bool :=
  match side with
  | .front => xs.tail.isEmpty || ys.isEmpty
  | .back => ys.tail.isEmpty || xs.isEmpty

/-- What a settled merge still takes up. -/
def remainder (side : Side) (xs ys : List α) : List α :=
  match side with
  | .front => ys ++ xs
  | .back => xs ++ ys

/-- Merges two runs that are listed from a side; gives the patience afterwards, too. -/
def merge (side : Side) (pace : Pace) (patience : Nat) : List α → List α → Except ε (List α × Nat)
  | [], ys => .ok (ys, patience)
  | xs, [] => .ok (xs, patience)
  | x :: xs, y :: ys =>
    if side.settled (x :: xs) (y :: ys) then .ok (side.remainder (x :: xs) (y :: ys), patience) else
    match pace with
    | .steps first second => do
      if ← side.ahead before x y then
        let (merged, patience) ← side.merge (.step patience (first + 1) 0) patience xs (y :: ys)
        .ok (x :: merged, patience)
      else
        let (merged, patience) ← side.merge (.step patience 0 (second + 1)) patience (x :: xs) ys
        .ok (y :: merged, patience)
    | .strideFirst => do
      let brought ← side.stride (side.ahead before · y) (x :: xs)
      let taken := (x :: xs).take brought
      let left := (x :: xs).drop brought
      if side.settled left (y :: ys) then .ok (taken ++ side.remainder left (y :: ys), patience)
      else
        let (merged, patience) ← side.merge (.strideSecond brought) patience left ys
        .ok (taken ++ y :: merged, patience)
    | .strideSecond earlier => do
      let brought ← side.stride (fun y => (side.ahead before x y).map not) (y :: ys)
      let taken := (y :: ys).take brought
      let left := (y :: ys).drop brought
      if side.settled (x :: xs) left then .ok (taken ++ side.remainder (x :: xs) left, patience)
      else
        let pays := worthwhile ≤ earlier || worthwhile ≤ brought
        let patience := if side.settled xs left then patience else adjusted pays patience
        let (merged, patience) ← side.merge (.stride pays) patience xs left
        .ok (taken ++ x :: merged, patience)
termination_by xs ys => xs.length + ys.length
decreasing_by all_goals simp <;> omega

end Side

/-- Merges the parts of two runs that are not in their places: an item of the second run comes first, and
one of the first run last. -/
def mergeInner (patience : Nat) (xs ys : List α) : Except ε (List α × Nat) :=
  if ys.isEmpty then .ok (xs, patience)
  else if xs.length ≤ ys.length then do
    let (merged, patience) ← Side.front.merge before (.steps 0 0) patience xs (ys.drop 1)
    .ok (ys.take 1 ++ merged, patience)
  else do
    let (merged, patience) ←
      Side.back.merge before (.steps 0 0) patience (xs.reverse.drop 1) ys.reverse
    .ok ((xs.reverse.take 1 ++ merged).reverse, patience)

/-- Merges two neighbouring runs. -/
def mergeRuns (patience : Nat) (xs ys : List α) : Except ε (List α × Nat) :=
  match ys with
  | [] => .ok (xs, patience)
  | y :: _ => do
    let kept ← Side.front.stride (Side.front.ahead before · y) xs
    match (xs.drop kept).getLast? with
    | none => .ok (xs ++ ys, patience)
    | some last =>
      let placed ← Side.back.stride (fun y => (Side.back.ahead before last y).map not) ys.reverse
      let moved := ys.length - placed
      let (merged, patience) ← mergeInner before patience (xs.drop kept) (ys.take moved)
      .ok (xs.take kept ++ merged ++ ys.drop moved, patience)

/-! ## Laws -/

theorem exists_of_bind_eq_ok {β : Type} {x : Except ε α} {f : α → Except ε β} {b : β}
    (h : x >>= f = .ok b) : ∃ a, x = .ok a ∧ f a = .ok b := by
  cases x with
  | error e => simp [bind, Except.bind] at h
  | ok a => exact ⟨a, rfl, h⟩

theorem Side.remainder_perm (side : Side) (xs ys : List α) : (side.remainder xs ys).Perm (xs ++ ys) := by
  cases side
  · exact List.perm_append_comm
  · exact .refl _

theorem Side.merge_perm {side : Side} {pace : Pace} {patience rest : Nat} {xs ys zs : List α}
    (h : side.merge before pace patience xs ys = .ok (zs, rest)) : zs.Perm (xs ++ ys) := by
  fun_induction Side.merge before side pace patience xs ys generalizing zs rest with
  | case1 => simp_all
  | case2 => simp_all
  | case3 pace patience x xs y ys hs =>
    simp only [Except.ok.injEq, Prod.mk.injEq] at h
    exact h.1 ▸ side.remainder_perm _ _
  | case4 patience x xs y ys hs first second ihFirst ihSecond =>
    obtain ⟨ahead, -, h⟩ := exists_of_bind_eq_ok h
    split at h
    · obtain ⟨⟨merged, patience⟩, hm, h⟩ := exists_of_bind_eq_ok h
      simp only [Except.ok.injEq, Prod.mk.injEq] at h
      exact h.1 ▸ (ihFirst hm).cons x
    · obtain ⟨⟨merged, patience⟩, hm, h⟩ := exists_of_bind_eq_ok h
      simp only [Except.ok.injEq, Prod.mk.injEq] at h
      exact h.1 ▸ ((ihSecond hm).cons y).trans List.perm_middle.symm
  | case5 patience x xs y ys hs ih =>
    obtain ⟨brought, -, h⟩ := exists_of_bind_eq_ok h
    conv => rhs; lhs; rw [← List.take_append_drop brought (x :: xs)]
    rw [List.append_assoc]
    dsimp only at h
    split at h
    · simp only [Except.ok.injEq, Prod.mk.injEq] at h
      exact h.1 ▸ (side.remainder_perm _ _).append_left _
    · obtain ⟨⟨merged, patience⟩, hm, h⟩ := exists_of_bind_eq_ok h
      simp only [Except.ok.injEq, Prod.mk.injEq] at h
      exact h.1 ▸ ((((ih brought hm).cons y).trans List.perm_middle.symm).append_left _)
  | case6 patience x xs y ys hs earlier ih =>
    obtain ⟨brought, -, h⟩ := exists_of_bind_eq_ok h
    have hys (ws : List α) (hw : ws.Perm ((x :: xs) ++ (y :: ys).drop brought)) :
        ((y :: ys).take brought ++ ws).Perm (x :: xs ++ y :: ys) := by
      refine (hw.append_left _).trans ?_
      refine (List.perm_append_comm_assoc ..).trans ?_
      rw [List.take_append_drop]
    dsimp only at h
    split at h
    · simp only [Except.ok.injEq, Prod.mk.injEq] at h
      exact h.1 ▸ hys _ (side.remainder_perm _ _)
    · obtain ⟨⟨merged, patience⟩, hm, h⟩ := exists_of_bind_eq_ok h
      simp only [Except.ok.injEq, Prod.mk.injEq] at h
      exact h.1 ▸ hys _ ((ih brought (by simpa using hm)).cons x)

theorem mergeInner_perm {patience rest : Nat} {xs ys zs : List α}
    (h : mergeInner before patience xs ys = .ok (zs, rest)) : zs.Perm (xs ++ ys) := by
  unfold mergeInner at h
  split at h
  · simp_all
  split at h
  · obtain ⟨⟨merged, patience⟩, hm, h⟩ := exists_of_bind_eq_ok h
    simp only [Except.ok.injEq, Prod.mk.injEq] at h
    refine h.1 ▸ ((Side.merge_perm before hm).append_left _).trans ?_
    refine (List.perm_append_comm_assoc ..).trans ?_
    rw [List.take_append_drop]
  · obtain ⟨⟨merged, patience⟩, hm, h⟩ := exists_of_bind_eq_ok h
    simp only [Except.ok.injEq, Prod.mk.injEq] at h
    refine h.1 ▸ (List.reverse_perm _).trans (((Side.merge_perm before hm).append_left _).trans ?_)
    rw [← List.append_assoc, List.take_append_drop]
    exact (List.reverse_perm _).append (List.reverse_perm _)

/-- Merging neither loses nor adds an item. -/
theorem mergeRuns_perm {patience rest : Nat} {xs ys zs : List α}
    (h : mergeRuns before patience xs ys = .ok (zs, rest)) : zs.Perm (xs ++ ys) := by
  unfold mergeRuns at h
  split at h
  · simp_all
  · obtain ⟨kept, -, h⟩ := exists_of_bind_eq_ok h
    split at h
    · simp_all
    · obtain ⟨placed, -, h⟩ := exists_of_bind_eq_ok h
      obtain ⟨⟨merged, patience⟩, hm, h⟩ := exists_of_bind_eq_ok h
      simp only [Except.ok.injEq, Prod.mk.injEq] at h
      refine h.1 ▸ (((mergeInner_perm before hm).append_left _).append_right _).trans ?_
      rw [← List.append_assoc, List.take_append_drop, List.append_assoc, List.take_append_drop]

end ModelStore.Sorting

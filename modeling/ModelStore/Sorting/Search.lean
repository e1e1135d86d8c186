/-!
# Searching in a run

How many items at one end of a sorted run pass a test is found without asking about each of them: by
halving (`halve`), or by steps that double from that end on, and halving in the last of them (`stride`),
which is quicker where few pass.

The test may be a comparison that fails or that follows no order. Then the answer depends on which items
are asked about, and the first refusal ends the search.
-/

namespace ModelStore.Sorting

/-- The end of a run from which its items are listed. -/
inductive Side where
  | front
  | back
deriving DecidableEq

variable {α ε : Type}

/-- Where the middle of some items is, counted from a side: of two middle items, the one nearer the back. -/
def Side.middle (side : Side) (n : Nat) : Nat :=
  match side with
  | .front => n / 2
  | .back => (n - 1) / 2

/-- How many items pass, by halving. -/
def Side.halve (side : Side) (passes : α → Except ε Bool) (xs : List α) : Except ε Nat :=
  match _h : xs.drop (side.middle xs.length) with
  | [] => .ok 0
  | x :: beyond => do
    if ← passes x then .ok (side.middle xs.length + 1 + (← side.halve passes beyond))
    else side.halve passes (xs.take (side.middle xs.length))
termination_by xs.length
decreasing_by
  all_goals
    have := congrArg List.length _h
    simp at this ⊢
    omega

/-- How many items pass, if so many are passed over by the first step. -/
def Side.leap (side : Side) (passes : α → Except ε Bool) (skipped : Nat) (xs : List α) : Except ε Nat :=
  match _h : xs.drop skipped with
  | [] => side.halve passes xs
  | x :: beyond => do
    if ← passes x then .ok (skipped + 1 + (← side.leap passes (2 * skipped + 1) beyond))
    else side.halve passes (xs.take skipped)
termination_by xs.length
decreasing_by
  have := congrArg List.length _h
  simp at this ⊢
  omega

/-- How many items pass, by steps that double. -/
def Side.stride (side : Side) (passes : α → Except ε Bool) : List α → Except ε Nat
  | [] => .ok 0
  | x :: rest => do if ← passes x then .ok (1 + (← side.leap passes 0 rest)) else .ok 0

end ModelStore.Sorting

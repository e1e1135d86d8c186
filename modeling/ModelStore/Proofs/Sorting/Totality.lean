import ModelStore.Proofs.Value.Keys
import ModelStore.Sorting
import ModelStore.Value.Order

/-!
# Sorting what can be compared

A sort is refused only by a comparison that is. **Items of which any two can be compared are sorted** (`sort_ok`),
whatever the comparison answers and whichever items the sort compares. So a list of texts always has an order
(`inOrder_texts`), which is what a message with two sets of columns side by side relies on.

There is one lemma for each function of the sort. What a function hands on holds the same items as what it was given,
so all that has to be carried along is that the items are of a kind, `P`, of which any two can be compared.
-/

namespace ModelStore

namespace Sorting

variable {α β ε : Type}

/-- What is done in two steps succeeds if the first does and then the second. -/
theorem exists_bind_eq_ok {x : Except ε α} {f : α → Except ε β} (hx : ∃ a, x = .ok a)
    (hf : ∀ a, x = .ok a → ∃ b, f a = .ok b) : ∃ b, x >>= f = .ok b := by
  obtain ⟨a, rfl⟩ := hx
  exact hf a rfl

theorem exists_map_eq_ok {x : Except ε α} (hx : ∃ a, x = .ok a) (f : α → β) : ∃ b, x.map f = .ok b := by
  obtain ⟨a, rfl⟩ := hx
  exact ⟨f a, rfl⟩

/-! ## Searching -/

section

variable {passes : α → Except ε Bool} {xs : List α}

theorem Side.halve_ok (side : Side) (h : ∀ x ∈ xs, ∃ b, passes x = .ok b) :
    ∃ n, side.halve passes xs = .ok n := by
  fun_induction Side.halve side passes xs with
  | case1 => exact ⟨0, rfl⟩
  | case2 xs x beyond hdrop ihBeyond ihBefore =>
    have hmem : ∀ y ∈ x :: beyond, y ∈ xs := fun y hy => List.mem_of_mem_drop (hdrop ▸ hy)
    refine exists_bind_eq_ok (h x (hmem x List.mem_cons_self)) ?_
    intro b _
    split
    · refine exists_bind_eq_ok (ihBeyond fun y hy => h y (hmem y (List.mem_cons_of_mem _ hy))) ?_
      exact fun n _ => ⟨_, rfl⟩
    · exact ihBefore fun y hy => h y (List.mem_of_mem_take hy)

theorem Side.leap_ok (side : Side) (skipped : Nat) (h : ∀ x ∈ xs, ∃ b, passes x = .ok b) :
    ∃ n, side.leap passes skipped xs = .ok n := by
  fun_induction Side.leap side passes skipped xs with
  | case1 skipped xs hdrop => exact side.halve_ok h
  | case2 skipped xs x beyond hdrop ih =>
    have hmem : ∀ y ∈ x :: beyond, y ∈ xs := fun y hy => List.mem_of_mem_drop (hdrop ▸ hy)
    refine exists_bind_eq_ok (h x (hmem x List.mem_cons_self)) ?_
    intro b _
    split
    · refine exists_bind_eq_ok (ih fun y hy => h y (hmem y (List.mem_cons_of_mem _ hy))) ?_
      exact fun n _ => ⟨_, rfl⟩
    · exact side.halve_ok fun y hy => h y (List.mem_of_mem_take hy)

theorem Side.stride_ok (side : Side) (h : ∀ x ∈ xs, ∃ b, passes x = .ok b) :
    ∃ n, side.stride passes xs = .ok n := by
  cases xs with
  | nil => exact ⟨0, rfl⟩
  | cons x rest =>
    refine exists_bind_eq_ok (h x List.mem_cons_self) ?_
    intro b _
    split
    · refine exists_bind_eq_ok (side.leap_ok 0 fun y hy => h y (List.mem_cons_of_mem _ hy)) ?_
      exact fun n _ => ⟨_, rfl⟩
    · exact ⟨0, rfl⟩

end

/-! ## Merging -/

/-- Any two items of a kind can be compared. -/
def Compares (before : α → α → Except ε Bool) (P : α → Prop) : Prop :=
  ∀ x y, P x → P y → ∃ b, before x y = .ok b

variable {before : α → α → Except ε Bool} {P : α → Prop}

theorem Compares.ahead (h : Compares before P) (side : Side) {x y : α} (hx : P x) (hy : P y) :
    ∃ b, side.ahead before x y = .ok b :=
  exists_map_eq_ok (h y x hy hx) _

theorem merge_ok (h : Compares before P) (side : Side) (pace : Pace) (patience : Nat) {xs ys : List α}
    (hxs : ∀ x ∈ xs, P x) (hys : ∀ y ∈ ys, P y) : ∃ merged, side.merge before pace patience xs ys = .ok merged := by
  fun_induction Side.merge before side pace patience xs ys with
  | case1 => exact ⟨_, rfl⟩
  | case2 => exact ⟨_, rfl⟩
  | case3 => exact ⟨_, rfl⟩
  | case4 patience x xs y ys hsettled first second ihFirst ihSecond =>
    refine exists_bind_eq_ok (h.ahead side (hxs x List.mem_cons_self) (hys y List.mem_cons_self)) ?_
    intro b _
    split
    · refine exists_bind_eq_ok (ihFirst (fun z hz => hxs z (List.mem_cons_of_mem _ hz)) hys) ?_
      exact fun merged _ => ⟨_, rfl⟩
    · refine exists_bind_eq_ok (ihSecond hxs fun z hz => hys z (List.mem_cons_of_mem _ hz)) ?_
      exact fun merged _ => ⟨_, rfl⟩
  | case5 patience x xs y ys hsettled ih =>
    refine exists_bind_eq_ok (side.stride_ok fun z hz => h.ahead side (hxs z hz) (hys y List.mem_cons_self)) ?_
    intro brought _
    dsimp only
    split
    · exact ⟨_, rfl⟩
    · refine exists_bind_eq_ok (ih brought (fun z hz => hxs z (List.mem_of_mem_drop hz))
        fun z hz => hys z (List.mem_cons_of_mem _ hz)) ?_
      exact fun merged _ => ⟨_, rfl⟩
  | case6 patience x xs y ys hsettled earlier ih =>
    refine exists_bind_eq_ok (side.stride_ok fun z hz =>
      exists_map_eq_ok (h.ahead side (hxs x List.mem_cons_self) (hys z hz)) not) ?_
    intro brought _
    dsimp only
    split
    · exact ⟨_, rfl⟩
    · refine exists_bind_eq_ok (ih brought (fun z hz => hxs z (List.mem_cons_of_mem _ hz))
        fun z hz => hys z (List.mem_of_mem_drop hz)) ?_
      exact fun merged _ => ⟨_, rfl⟩

theorem mergeInner_ok (h : Compares before P) (patience : Nat) {xs ys : List α} (hxs : ∀ x ∈ xs, P x)
    (hys : ∀ y ∈ ys, P y) : ∃ merged, mergeInner before patience xs ys = .ok merged := by
  unfold mergeInner
  split
  · exact ⟨_, rfl⟩
  split
  · refine exists_bind_eq_ok (merge_ok h .front _ patience hxs fun y hy => hys y (List.mem_of_mem_drop hy)) ?_
    exact fun merged _ => ⟨_, rfl⟩
  · refine exists_bind_eq_ok (merge_ok h .back _ patience
      (fun x hx => hxs x (List.mem_reverse.mp (List.mem_of_mem_drop hx)))
      fun y hy => hys y (List.mem_reverse.mp hy)) ?_
    exact fun merged _ => ⟨_, rfl⟩

theorem mergeRuns_ok (h : Compares before P) (patience : Nat) {xs ys : List α} (hxs : ∀ x ∈ xs, P x)
    (hys : ∀ y ∈ ys, P y) : ∃ merged, mergeRuns before patience xs ys = .ok merged := by
  unfold mergeRuns
  split
  · exact ⟨_, rfl⟩
  case h_2 y rest =>
    refine exists_bind_eq_ok
      (Side.front.stride_ok fun x hx => h.ahead .front (hxs x hx) (hys y List.mem_cons_self)) ?_
    intro kept _
    split
    · exact ⟨_, rfl⟩
    case h_2 last hlast =>
      have hPlast : P last := hxs last (List.mem_of_mem_drop (List.mem_of_getLast? hlast))
      refine exists_bind_eq_ok (Side.back.stride_ok fun z hz =>
        exists_map_eq_ok (h.ahead .back hPlast (hys z (List.mem_reverse.mp hz))) not) ?_
      intro placed _
      refine exists_bind_eq_ok (mergeInner_ok h patience (fun x hx => hxs x (List.mem_of_mem_drop hx))
        fun z hz => hys z (List.mem_of_mem_take hz)) ?_
      exact fun merged _ => ⟨_, rfl⟩

/-- The items of two runs are those of the merged one. -/
theorem forall_mem_merged {patience rest : Nat} {xs ys merged : List α}
    (hmerged : mergeRuns before patience xs ys = .ok (merged, rest)) (hxs : ∀ x ∈ xs, P x) (hys : ∀ y ∈ ys, P y) :
    ∀ x ∈ merged, P x := by
  intro x hx
  rcases List.mem_append.mp ((mergeRuns_perm before hmerged).mem_iff.mp hx) with hx | hx
  · exact hxs x hx
  · exact hys x hx

/-! ## Piling up -/

namespace Pile

theorem forall_mem_items_cons {run : Run α} {runs : List (Run α)} :
    (∀ x ∈ items (run :: runs), P x) ↔ (∀ x ∈ run.items, P x) ∧ ∀ x ∈ items runs, P x := by
  simp only [items, List.flatMap_cons, List.forall_mem_append]

theorem close_ok (h : Compares before P) (level patience : Nat) {last : Run α} {runs : List (Run α)}
    (hlast : ∀ x ∈ last.items, P x) (hruns : ∀ x ∈ items runs, P x) :
    ∃ pile, close before level patience last runs = .ok pile := by
  induction runs generalizing last patience with
  | nil => exact ⟨_, rfl⟩
  | cons run runs ih =>
    obtain ⟨hrun, hmore⟩ := forall_mem_items_cons.mp hruns
    unfold close
    split
    · refine exists_bind_eq_ok (mergeRuns_ok h patience hrun hlast) ?_
      rintro ⟨merged, rest⟩ hmerged
      exact ih rest (forall_mem_merged hmerged hrun hlast) hmore
    · exact ⟨_, rfl⟩

theorem push_ok (h : Compares before P) (whole : Nat) {pile : Pile α} (hpile : ∀ x ∈ items pile.runs, P x)
    (run : List α) : ∃ next, pile.push before whole run = .ok next := by
  unfold push
  split
  · exact ⟨_, rfl⟩
  case h_2 last runs hruns =>
    rw [hruns] at hpile
    obtain ⟨hlast, hmore⟩ := forall_mem_items_cons.mp hpile
    refine exists_bind_eq_ok (close_ok h _ pile.patience hlast hmore) ?_
    exact fun closed _ => ⟨_, rfl⟩

theorem collapse_ok (h : Compares before P) (patience : Nat) {runs : List (Run α)}
    (hruns : ∀ x ∈ items runs, P x) : ∃ xs, collapse before patience runs = .ok xs := by
  fun_induction collapse before patience runs with
  | case1 => exact ⟨_, rfl⟩
  | case2 => exact ⟨_, rfl⟩
  | case3 patience last run =>
    simp only [forall_mem_items_cons] at hruns
    refine exists_bind_eq_ok (mergeRuns_ok h patience hruns.2.1 hruns.1) ?_
    exact fun merged _ => ⟨_, rfl⟩
  | case4 patience last run earlier runs _ ih =>
    simp only [forall_mem_items_cons] at hruns ih
    obtain ⟨hlast, hrun, hearlier, hmore⟩ := hruns
    refine exists_bind_eq_ok (mergeRuns_ok h patience hearlier hrun) ?_
    rintro ⟨merged, rest⟩ hmerged
    exact ih merged rest ⟨hlast, forall_mem_merged hmerged hearlier hrun, hmore⟩
  | case5 patience last run earlier runs _ ih =>
    simp only [forall_mem_items_cons] at hruns ih
    obtain ⟨hlast, hrun, hearlier, hmore⟩ := hruns
    refine exists_bind_eq_ok (mergeRuns_ok h patience hrun hlast) ?_
    rintro ⟨merged, rest⟩ hmerged
    exact ih merged rest ⟨forall_mem_merged hmerged hrun hlast, hearlier, hmore⟩

end Pile

/-! ## Runs -/

theorem follow_ok (h : Compares before P) (falling : Bool) {last : α} {xs : List α} (hlast : P last)
    (hxs : ∀ x ∈ xs, P x) : ∃ n, follow before falling last xs = .ok n := by
  induction xs generalizing last with
  | nil => exact ⟨0, rfl⟩
  | cons x rest ih =>
    have hx := hxs x List.mem_cons_self
    refine exists_bind_eq_ok (h x last hx hlast) ?_
    intro b _
    split
    · refine exists_bind_eq_ok (ih hx fun y hy => hxs y (List.mem_cons_of_mem _ hy)) ?_
      exact fun n _ => ⟨_, rfl⟩
    · exact ⟨_, rfl⟩

theorem insert_ok (h : Compares before P) {x : α} {xs : List α} (hx : P x) (hxs : ∀ y ∈ xs, P y) :
    ∃ ys, insert before x xs = .ok ys := by
  refine exists_bind_eq_ok (Side.front.halve_ok fun y hy => exists_map_eq_ok (h x y hx (hxs y hy)) not) ?_
  exact fun place _ => ⟨_, rfl⟩

theorem insertAll_ok (h : Compares before P) {sorted xs : List α} (hsorted : ∀ x ∈ sorted, P x)
    (hxs : ∀ x ∈ xs, P x) : ∃ ys, insertAll before sorted xs = .ok ys := by
  induction xs generalizing sorted with
  | nil => exact ⟨_, rfl⟩
  | cons x rest ih =>
    have hx := hxs x List.mem_cons_self
    refine exists_bind_eq_ok (insert_ok h hx hsorted) ?_
    intro longer hlonger
    refine ih ?_ fun y hy => hxs y (List.mem_cons_of_mem _ hy)
    intro y hy
    rcases List.mem_cons.mp ((insert_perm before hlonger).mem_iff.mp hy) with rfl | hy
    · exact hx
    · exact hsorted y hy

theorem firstRun_ok (h : Compares before P) (least : Nat) {x : α} {xs : List α} (hx : P x)
    (hxs : ∀ y ∈ xs, P y) : ∃ run, firstRun before least x xs = .ok run := by
  cases xs with
  | nil => exact ⟨_, rfl⟩
  | cons y rest =>
    have hy := hxs y List.mem_cons_self
    refine exists_bind_eq_ok (h y x hy hx) ?_
    intro falling _
    refine exists_bind_eq_ok (follow_ok h falling hy fun z hz => hxs z (List.mem_cons_of_mem _ hz)) ?_
    intro more _
    have hfound : ∀ z ∈ x :: (y :: rest).take (1 + more), P z := by
      intro z hz
      rcases List.mem_cons.mp hz with rfl | hz
      · exact hx
      · exact hxs z (List.mem_of_mem_take hz)
    -- whether the run is turned round or not, its items are the same
    have hturned : ∀ z ∈ (if falling then (x :: (y :: rest).take (1 + more)).reverse
        else x :: (y :: rest).take (1 + more)), P z := by
      intro z hz
      split at hz
      · exact hfound z (List.mem_reverse.mp hz)
      · exact hfound z hz
    refine exists_bind_eq_ok (insertAll_ok h hturned
      fun z hz => hxs z (List.mem_of_mem_drop (List.mem_of_mem_take hz))) ?_
    exact fun sorted _ => ⟨_, rfl⟩

theorem pileUp_ok (h : Compares before P) (whole : Nat) {pile : Pile α} {xs : List α}
    (hpile : ∀ x ∈ Pile.items pile.runs, P x) (hxs : ∀ x ∈ xs, P x) :
    ∃ next, pileUp before whole pile xs = .ok next := by
  fun_induction pileUp before whole pile xs with
  | case1 => exact ⟨_, rfl⟩
  | case2 pile x rest ih =>
    have hrest : ∀ y ∈ rest, P y := fun y hy => hxs y (List.mem_cons_of_mem _ hy)
    refine exists_bind_eq_ok (firstRun_ok h (leastRun whole) (hxs x List.mem_cons_self) hrest) ?_
    rintro ⟨run, more⟩ hrun
    refine exists_bind_eq_ok (Pile.push_ok h whole hpile run) ?_
    intro pushed hpushed
    refine ih more pushed ?_ fun y hy => hrest y (List.mem_of_mem_drop hy)
    intro y hy
    rcases List.mem_append.mp ((Pile.push_perm before hpushed).mem_iff.mp hy) with hy | hy
    · exact hxs y ((firstRun_perm before hrun).mem_iff.mp (List.mem_append_left _ hy))
    · exact hpile y hy

/-- **Items of which any two can be compared are sorted.** -/
theorem sort_ok (h : Compares before P) {xs : List α} (hxs : ∀ x ∈ xs, P x) : ∃ ys, sort before xs = .ok ys := by
  refine exists_bind_eq_ok (pileUp_ok h xs.length (List.forall_mem_nil P) hxs) ?_
  intro pile hpile
  refine Pile.collapse_ok h pile.patience ?_
  intro x hx
  exact hxs x ((pileUp_perm before hpile).mem_iff.mp hx)

end Sorting

/-- **Texts have an order.** -/
theorem Value.inOrder_texts {vs : List Value} (h : ∀ v ∈ vs, ∃ s, v = .text s) : ∃ ws, Value.inOrder vs = .ok ws := by
  refine Sorting.sort_ok (P := fun v => ∃ s, v = .text s) ?_ h
  rintro _ _ ⟨s, rfl⟩ ⟨t, rfl⟩
  exact ⟨_, by rw [Value.less]⟩

end ModelStore

import ModelStore.Proofs.Sql.Outline

/-!
# Reading tuples

The columns and the values of an insertion are tuples: items between parentheses, with commas between them, and
commas between the tuples. `tuples?` reads them, whatever the items are, and is strict about everything else: a
tuple that is not closed, a comma too many or an empty tuple is not read at all.

**Tuples that are written are read back** (`tuples?_listed`), if each of their items is one token that is read.
-/

namespace ModelStore.Sql

variable {α : Type} {item? : Token → Option α}

/-! ## The reader -/

/-- Reads what is left of a tuple, and the tuples that follow. -/
def tuplesFrom? (item? : Token → Option α) : Sql → Option (List (List α))
  | [token, .mark .closing] => (item? token).map fun x => [[x]]
  | token :: .mark .closing :: .mark .comma :: .mark .opening :: rest => do
    let x ← item? token
    let tuples ← tuplesFrom? item? rest
    some ([x] :: tuples)
  | token :: .mark .comma :: rest => do
    let x ← item? token
    match ← tuplesFrom? item? rest with
    | xs :: tuples => some ((x :: xs) :: tuples)
    | [] => none
  | _ => none

/-- **Reads tuples**; none if they cannot be read. -/
def tuples? (item? : Token → Option α) : Sql → Option (List (List α))
  | .mark .opening :: rest => tuplesFrom? item? rest
  | _ => none

theorem opening_of_tuples? {tokens : Sql} {tuples : List (List α)} (h : tuples? item? tokens = some tuples) :
    ∃ rest, tokens = .mark .opening :: rest ∧ tuplesFrom? item? rest = some tuples := by
  unfold tuples? at h
  split at h
  case h_1 rest => exact ⟨rest, rfl, h⟩
  case h_2 => cases h

/-! ## One tuple -/

/-- What follows a tuple: nothing, or another tuple. -/
inductive Follows (item? : Token → Option α) : Sql → List (List α) → Prop
  | nothing : Follows item? [] []
  | tuple {rest : Sql} {tuples : List (List α)} (h : tuplesFrom? item? rest = some tuples) :
      Follows item? (.mark .comma :: .mark .opening :: rest) tuples

/-- A tuple is read up to where it closes. -/
theorem tuplesFrom?_tuple {tokens : List Token} {xs : List α} {rest : Sql} {tuples : List (List α)}
    (hne : tokens ≠ []) (hitems : List.Forall₂ (fun token x => item? token = some x) tokens xs)
    (hrest : Follows item? rest tuples) :
    tuplesFrom? item? ([.mark .comma].intercalate (tokens.map fun token => [token]) ++ .mark .closing :: rest) =
      some (xs :: tuples) := by
  induction hitems with
  | nil => exact absurd rfl hne
  | @cons token x tokens xs hitem hitems ih =>
    cases hitems with
    | nil =>
      cases hrest with
      | nothing => simp [tuplesFrom?, hitem]
      | tuple h => simp [tuplesFrom?, hitem, h]
    | @cons next y tokens ys hnext hmore =>
      have hread := ih (List.cons_ne_nil next tokens)
      simp only [List.map_cons] at hread ⊢
      rw [List.intercalate_cons_cons, List.append_assoc, List.append_assoc]
      generalize [Token.mark .comma].intercalate ([next] :: tokens.map fun token => [token]) ++
        .mark .closing :: rest = left at hread
      simp [tuplesFrom?, hitem, hread]

/-- A part of a statement that is written as a tuple of the given items. -/
def WritesTuple (item? : Token → Option α) (sql : Sql) (xs : List α) : Prop :=
  ∃ tokens, tokens ≠ [] ∧ List.Forall₂ (fun token x => item? token = some x) tokens xs ∧
    tight sql = .mark .opening :: ([.mark .comma].intercalate (tokens.map fun token => [token]) ++ [.mark .closing])

/-- Tokens between parentheses, with commas between them. -/
theorem writesTuple_of_tokens {tokens : List Token} {xs : List α} (hne : tokens ≠ [])
    (hblank : ∀ token ∈ tokens, token ≠ .blank)
    (hitems : List.Forall₂ (fun token x => item? token = some x) tokens xs) :
    WritesTuple item? (parenthesized (listed (tokens.map fun token => [token]))) xs := by
  refine ⟨tokens, hne, hitems, ?_⟩
  have htight : (tokens.map fun token => [token]).map tight = tokens.map fun token => [token] := by
    rw [List.map_map]
    refine List.map_congr_left ?_
    intro token hmem
    simp [tight, hblank token hmem]
  rw [tight_parenthesized, listed, tight_joined (show tight [.mark .comma, .blank] = [.mark .comma] from rfl), htight]

/-! ## All tuples -/

/-- **Tuples that are written are read back.** -/
theorem tuples?_listed {parts : List Sql} {tuples : List (List α)} (hne : parts ≠ [])
    (h : List.Forall₂ (WritesTuple item?) parts tuples) : tuples? item? (tight (listed parts)) = some tuples := by
  rw [listed, tight_joined (show tight [.mark .comma, .blank] = [.mark .comma] from rfl)]
  induction h with
  | nil => exact absurd rfl hne
  | @cons part xs parts tuples hpart hparts ih =>
    obtain ⟨tokens, hsome, hitems, htight⟩ := hpart
    cases hparts with
    | nil =>
      rw [List.map_singleton, List.intercalate_singleton, htight]
      exact tuplesFrom?_tuple hsome hitems .nothing
    | @cons next ys parts tuples hnext hmore =>
      obtain ⟨rest, hrest, hread⟩ := opening_of_tuples? (ih (List.cons_ne_nil next parts))
      rw [List.map_cons] at hrest
      rw [List.map_cons, List.map_cons, List.intercalate_cons_cons, hrest, htight, List.cons_append, List.cons_append]
      have hall := tuplesFrom?_tuple hsome hitems (.tuple hread)
      simpa [tuples?] using hall

end ModelStore.Sql

import ModelStore.Proofs.Query.Clauses

/-!
# Reading criteria back

A `WHERE` clause and the arguments that were bound for it say everything that the criteria said. `decode?` is
the reader: it takes the text and the arguments and nothing else, lexes the text, cuts the tokens at every
`AND`, and knows each condition by the tokens it is made of. No name can mislead it, since a name is one token
whatever it spells, `" AND "` included; and it needs nobody to tell it how many arguments were bound before,
since a placeholder says which argument it stands for.

**What was compiled is read back as it was** (`decode?_clause`), so criteria that compile to the same text and
the same arguments ask for the same (`compile_decodes`). And criteria that are refused bind nothing, late as
the offending entry may come: they are all read before the first of them is written.
-/

namespace ModelStore

open Sql

/-! ## The reader -/

namespace Condition

/-- The argument that a placeholder stands for. -/
def argument? (arguments : List Value) : Nat → Option Value
  | 0 => none
  | n + 1 => arguments[n]?

/-- The argument that a placeholder stands for, if it is a run of values. -/
def arguments? (arguments : List Value) (n : Nat) : Option (List Value) :=
  match argument? arguments n with
  | some (.list values) => some values
  | _ => none

def testOf? (operand : Value) : Mark → Option Test
  | .equal => some (.equals operand)
  | .notEqual => some (.notEquals operand)
  | .less => some (.compares .less operand)
  | .greater => some (.compares .greater operand)
  | .atMost => some (.compares .atMost operand)
  | .atLeast => some (.compares .atLeast operand)
  | _ => none

/-- The condition that some tokens make up. -/
def ofTokens? (arguments : List Value) : Sql → Option Condition
  | [.name column, .mark m, .placeholder n] =>
    (argument? arguments n).bind fun operand => (testOf? operand m).map (⟨column, ·⟩)
  | [.name column, .mark .equal, .keyword .ANY, .mark .opening, .placeholder n, .mark .closing] =>
    (arguments? arguments n).map fun values => ⟨column, .among values⟩
  | [.keyword .NOT, .mark .opening, .name column, .mark .equal, .keyword .ANY, .mark .opening,
      .placeholder n, .mark .closing, .mark .closing] =>
    (arguments? arguments n).map fun values => ⟨column, .notAmong values⟩
  | [.name column, .keyword .IS, .keyword .NULL] => some ⟨column, .isNull⟩
  | [.name column, .keyword .IS, .keyword .NOT, .keyword .NULL] => some ⟨column, .isNotNull⟩
  | _ => none

end Condition

namespace Criteria

def ofTokens? (arguments : List Value) : Sql → Option (List Condition)
  | [] => some []
  | .keyword .WHERE :: tokens => (tokens.splitOn (.keyword .AND)).mapM (Condition.ofTokens? arguments)
  | _ => none

/-- **Reads a clause's text and its arguments as conditions**; none if they cannot be read. -/
def decode? (text : String) (arguments : List Value) : Option (List Condition) :=
  (lex text).bind (ofTokens? arguments)

end Criteria

/-! ## One condition -/

theorem Condition.tight_sql (bound : Nat) (c : Condition) :
    (c.sql bound).tight = match c.test with
      | .equals _ => [.name c.column, .mark .equal, .placeholder (bound + 1)]
      | .notEquals _ => [.name c.column, .mark .notEqual, .placeholder (bound + 1)]
      | .compares comparison _ => [.name c.column, .mark comparison.mark, .placeholder (bound + 1)]
      | .among _ => [.name c.column, .mark .equal, .keyword .ANY, .mark .opening, .placeholder (bound + 1),
          .mark .closing]
      | .notAmong _ => [.keyword .NOT, .mark .opening, .name c.column, .mark .equal, .keyword .ANY,
          .mark .opening, .placeholder (bound + 1), .mark .closing, .mark .closing]
      | .isNull => [.name c.column, .keyword .IS, .keyword .NULL]
      | .isNotNull => [.name c.column, .keyword .IS, .keyword .NOT, .keyword .NULL] := by
  obtain ⟨column, test⟩ := c
  cases test <;> rfl

/-- A condition is in one piece: no `AND` stands inside it. -/
theorem Condition.and_not_mem (bound : Nat) (c : Condition) : .keyword .AND ∉ (c.sql bound).tight := by
  obtain ⟨column, test⟩ := c
  rw [tight_sql]
  cases test <;> simp

/-- **A condition is read back**, if its operands are found behind those that were bound before. -/
theorem Condition.ofTokens?_sql (before after : List Value) (c : Condition) :
    ofTokens? (before ++ (c.operands ++ after)) (c.sql before.length).tight = some c := by
  obtain ⟨column, test⟩ := c
  have hoperand : ∀ v, argument? (before ++ v :: after) (before.length + 1) = some v := by
    intro v
    simp [argument?]
  have hoperands : ∀ vs, arguments? (before ++ .list vs :: after) (before.length + 1) = some vs := by
    intro vs
    rw [arguments?, hoperand]
  rw [tight_sql]
  cases test with
  | equals v => simp [ofTokens?, operands, hoperand, testOf?]
  | notEquals v => simp [ofTokens?, operands, hoperand, testOf?]
  | compares comparison v =>
    cases comparison <;> simp [ofTokens?, operands, hoperand, testOf?, Comparison.mark]
  | among vs => simp [ofTokens?, operands, hoperands]
  | notAmong vs => simp [ofTokens?, operands, hoperands]
  | isNull => rfl
  | isNotNull => rfl

/-! ## A conjunction -/

namespace Criteria

theorem mapM_ofTokens?_parts (before after : List Value) (conditions : List Condition) :
    ((parts before.length conditions).map tight).mapM
      (Condition.ofTokens? (before ++ (operands conditions ++ after))) = some conditions := by
  induction conditions generalizing before with
  | nil => rfl
  | cons c rest ih =>
    have hfirst := c.ofTokens?_sql before (operands rest ++ after)
    -- to the conditions that follow, the operands of this one are bound already
    have hrest := ih (before ++ c.operands)
    rw [List.length_append, List.append_assoc] at hrest
    rw [operands, List.flatMap_cons, ← operands, List.append_assoc, parts, List.map_cons, List.mapM_cons,
      hfirst, hrest]
    rfl

theorem and_not_mem_parts (bound : Nat) (conditions : List Condition) :
    ∀ part ∈ (parts bound conditions).map tight, .keyword .AND ∉ part := by
  induction conditions generalizing bound with
  | nil => simp [parts]
  | cons c rest ih =>
    intro part hpart
    rcases List.mem_cons.mp hpart with rfl | hpart
    · exact c.and_not_mem bound
    · exact ih _ part hpart

/-- **What is written of conditions is read back as those conditions**, whatever was bound before. -/
theorem decode?_clause (bound : List Value) (conditions : List Condition) :
    decode? (clause bound.length conditions).render (bound ++ operands conditions) = some conditions := by
  have hlex := lex_render (says_clause bound.length conditions).legible
  rw [decode?, hlex, Option.bind_some]
  cases conditions with
  | nil => rfl
  | cons c rest =>
    have htokens : (clause bound.length (c :: rest)).filter (· ≠ .blank)
        = .keyword .WHERE :: [.keyword .AND].intercalate ((parts bound.length (c :: rest)).map tight) := by
      rw [← tight_joined (show tight [.blank, .keyword .AND, .blank] = [.keyword .AND] from rfl)]
      rfl
    have hne : (parts bound.length (c :: rest)).map tight ≠ [] := by simp [parts]
    have hsplit := List.splitOn_intercalate (Token.keyword .AND)
      (and_not_mem_parts bound.length (c :: rest)) hne
    have hread := mapM_ofTokens?_parts bound [] (c :: rest)
    rw [List.append_nil] at hread
    rw [htokens, ofTokens?, hsplit, hread]

end Criteria

/-! ## Compiling -/

theorem Condition.result_write (c : Condition) (arguments : List Value) :
    c.write.result arguments = (.ok (c.sql arguments.length), arguments ++ c.operands) := rfl

namespace Criteria

open Binding

/-- Conditions written one after the other count on from one another. -/
theorem result_mapM_write (conditions : List Condition) (arguments : List Value) :
    (conditions.mapM Condition.write).result arguments
      = (.ok (parts arguments.length conditions), arguments ++ operands conditions) := by
  induction conditions generalizing arguments with
  | nil => simp [result_ok, parts, operands]
  | cons c rest ih =>
    have hcount : (arguments ++ c.operands).length = arguments.length + c.operands.length :=
      List.length_append
    rw [List.mapM_cons, result_bind, Condition.result_write]
    simp only
    rw [result_bind, ih, hcount]
    simp [result_ok, parts, operands]

/-- **What compiling does**: all of the criteria are read before any of them is written. -/
theorem result_compile (criteria : Value) (arguments : List Value) :
    (compile criteria).result arguments = match parse criteria with
      | .ok conditions => (.ok (clause arguments.length conditions), arguments ++ operands conditions)
      | .error fault => (.error fault, arguments) := by
  rw [compile, result_bind, result_lift]
  cases parse criteria with
  | error fault => rfl
  | ok conditions =>
    cases conditions with
    | nil => simp [result_ok, clause, operands]
    | cons c rest =>
      simp only
      rw [result_bind, result_mapM_write]
      rfl

theorem result_compileSingle (table : Sql) (criteria : Value) (arguments : List Value) :
    (compileSingle table criteria).result arguments = match parse criteria with
      | .ok conditions =>
        (.ok (singleClause table arguments.length conditions), arguments ++ operands conditions)
      | .error fault => (.error fault, arguments) := by
  rw [compileSingle, result_bind, result_compile]
  cases parse criteria <;> rfl

/-- Criteria that compile are criteria that can be read. -/
theorem compile_ok {criteria : Value} {arguments after : List Value} {sql : Sql}
    (h : (compile criteria).result arguments = (.ok sql, after)) :
    ∃ conditions, parse criteria = .ok conditions ∧ decode? sql.render after = some conditions := by
  rw [result_compile] at h
  cases hparse : parse criteria with
  | error fault =>
    rw [hparse] at h
    exact absurd (Prod.mk.inj h).1 (by simp)
  | ok conditions =>
    rw [hparse] at h
    obtain ⟨hsql, hafter⟩ := Prod.mk.inj h
    refine ⟨conditions, rfl, ?_⟩
    rw [← Except.ok.inj hsql, ← hafter]
    exact decode?_clause arguments conditions

theorem after_of_error {parsed : Except Fault (List Condition)} {written : List Condition → Sql}
    {arguments after : List Value} {fault : Fault}
    (h : (match parsed with
      | .ok conditions => (.ok (written conditions), arguments ++ operands conditions)
      | .error fault => (.error fault, arguments)) = (Except.error fault, after)) : after = arguments := by
  cases parsed with
  | error fault => exact (Prod.mk.inj h).2.symm
  | ok conditions => exact absurd (Prod.mk.inj h).1 (by simp)

/-- **Compiled criteria can be read back, and refused ones leave nothing behind.** -/
theorem compile_decodes (criteria : Value) (arguments : List Value) :
    (∀ conditions, parse criteria = .ok conditions → ∃ sql operands,
      (compile criteria).result arguments = (.ok sql, arguments ++ operands) ∧
        decode? sql.render (arguments ++ operands) = some conditions) ∧
    (∀ other arguments' sql sql' after, (compile criteria).result arguments = (.ok sql, after) →
      (compile other).result arguments' = (.ok sql', after) → sql.render = sql'.render →
        ∃ conditions, parse criteria = .ok conditions ∧ parse other = .ok conditions) ∧
    (∀ fault after, (compile criteria).result arguments = (.error fault, after) → after = arguments) ∧
    (∀ table fault after, (compileSingle table criteria).result arguments = (.error fault, after) →
      after = arguments) := by
  refine ⟨?_, ?_, ?_, ?_⟩
  · intro conditions hparse
    refine ⟨clause arguments.length conditions, operands conditions, ?_, decode?_clause arguments conditions⟩
    rw [result_compile, hparse]
  · intro other arguments' sql sql' after h h' htext
    obtain ⟨conditions, hparse, hdecode⟩ := compile_ok h
    obtain ⟨conditions', hparse', hdecode'⟩ := compile_ok h'
    rw [htext, hdecode'] at hdecode
    obtain rfl := Option.some.inj hdecode
    exact ⟨conditions', hparse, hparse'⟩
  · intro fault after h
    rw [result_compile] at h
    exact after_of_error h
  · intro table fault after h
    rw [result_compileSingle] at h
    exact after_of_error h

end Criteria
end ModelStore

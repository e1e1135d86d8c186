import ModelStore.Proofs.Sql.Outline

/-!
# The grammar of statements

Storage takes a text for a statement only if it is derivable from its grammar. The grammar asks where names and
arguments stand, not which they are, so it is a grammar of outlines, with one name and one argument in them:

    statement  = SELECT selection FROM table clause [ORDER BY name [ASC | DESC]] [LIMIT n]
               | write [RETURNING *]
    write      = INSERT INTO table (name, ...) VALUES (argument, ...)
               | INSERT INTO table DEFAULT VALUES
               | UPDATE table SET name = argument, ... clause
               | DELETE FROM table clause
    clause     = conditions | WHERE name = (SELECT name FROM table conditions)
    conditions = [WHERE predicate AND ...]

An enumeration has at least one part, and a tuple has as many parts as there are columns. **An order and a limit stand
in statements that read and in no others** (`Statement.reads_or_unordered`).
-/

namespace ModelStore.Sql.Grammar

/-! ## Productions -/

inductive Table : Sql → Prop
  | plain : Table [.name ""]
  | qualified : Table [.name "", .mark .point, .name ""]

/-- So and so many parts, one at least, with a token between them. -/
inductive Many (Part : Sql → Prop) (between : Token) : Nat → Sql → Prop
  | one {part : Sql} (h : Part part) : Many Part between 1 part
  | more {part rest : Sql} {n : Nat} (h : Part part) (hrest : Many Part between n rest) :
    Many Part between (n + 1) (part ++ between :: rest)

/-- The marks that compare. -/
def comparisons : List Mark := [.equal, .notEqual, .less, .greater, .atMost, .atLeast]

inductive Predicate : Sql → Prop
  | compared {m : Mark} (h : m ∈ comparisons) : Predicate [.name "", .mark m, .placeholder 0]
  | among : Predicate ([.name "", .mark .equal, .keyword .ANY] ++ parenthesized [.placeholder 0])
  | isNull : Predicate [.name "", .keyword .IS, .keyword .NULL]
  | isNotNull : Predicate [.name "", .keyword .IS, .keyword .NOT, .keyword .NULL]
  | not {predicate : Sql} (h : Predicate predicate) : Predicate (.keyword .NOT :: parenthesized predicate)

inductive Conditions : Sql → Prop
  | all : Conditions []
  | those {predicates : Sql} {n : Nat} (h : Many Predicate (.keyword .AND) n predicates) :
    Conditions (.keyword .WHERE :: predicates)

inductive Clause : Sql → Prop
  | every {conditions : Sql} (h : Conditions conditions) : Clause conditions
  | one {table conditions : Sql} (htable : Table table) (h : Conditions conditions) :
    Clause ([.keyword .WHERE, .name "", .mark .equal]
      ++ parenthesized ([.keyword .SELECT, .name "", .keyword .FROM] ++ table ++ conditions))

inductive Selection : Sql → Prop
  | all : Selection [.mark .star]
  | columns {columns : Sql} {n : Nat} (h : Many (· = [.name ""]) (.mark .comma) n columns) : Selection columns

inductive Ordering : Sql → Prop
  | no : Ordering []
  | by : Ordering [.keyword .ORDER, .keyword .BY, .name ""]
  | ascending : Ordering [.keyword .ORDER, .keyword .BY, .name "", .keyword .ASC]
  | descending : Ordering [.keyword .ORDER, .keyword .BY, .name "", .keyword .DESC]

inductive Limiting : Sql → Prop
  | no : Limiting []
  | to (n : Nat) : Limiting [.keyword .LIMIT, .number n]

inductive Returning : Sql → Prop
  | no : Returning []
  | rows : Returning [.keyword .RETURNING, .mark .star]

inductive Write : Sql → Prop
  | insert {table columns arguments : Sql} {n : Nat} (htable : Table table)
    (hcolumns : Many (· = [.name ""]) (.mark .comma) n columns)
    (harguments : Many (· = [.placeholder 0]) (.mark .comma) n arguments) :
    Write ([.keyword .INSERT, .keyword .INTO] ++ table ++ parenthesized columns
      ++ .keyword .VALUES :: parenthesized arguments)
  | insertDefaults {table : Sql} (htable : Table table) :
    Write ([.keyword .INSERT, .keyword .INTO] ++ table ++ [.keyword .DEFAULT, .keyword .VALUES])
  | update {table assignments clause : Sql} {n : Nat} (htable : Table table)
    (hassignments : Many (· = [.name "", .mark .equal, .placeholder 0]) (.mark .comma) n assignments)
    (hclause : Clause clause) :
    Write (.keyword .UPDATE :: table ++ .keyword .SET :: assignments ++ clause)
  | delete {table clause : Sql} (htable : Table table) (hclause : Clause clause) :
    Write ([.keyword .DELETE, .keyword .FROM] ++ table ++ clause)

/-- **The outlines that are derivable as statements.** -/
inductive Statement : Sql → Prop
  | read {selection table clause ordering limiting : Sql} (hselection : Selection selection) (htable : Table table)
    (hclause : Clause clause) (hordering : Ordering ordering) (hlimiting : Limiting limiting) :
    Statement (.keyword .SELECT :: selection ++ .keyword .FROM :: table ++ clause ++ ordering ++ limiting)
  | write {write returning : Sql} (hwrite : Write write) (hreturning : Returning returning) :
    Statement (write ++ returning)

/-! ## Enumerations -/

theorem many_joined {Part : Sql → Prop} {between : Token} {parts : List Sql} (hne : parts ≠ [])
    (hparts : ∀ part ∈ parts, Part part) : Many Part between parts.length (joined [between] parts) := by
  induction parts with
  | nil => exact absurd rfl hne
  | cons first rest ih =>
    have hfirst : Part first := hparts first List.mem_cons_self
    cases rest with
    | nil =>
      have hone : Many Part between 1 first := .one hfirst
      simpa [joined] using hone
    | cons second rest =>
      have hrest : Many Part between (second :: rest).length (joined [between] (second :: rest)) := by
        apply ih (List.cons_ne_nil _ _)
        intro part hpart
        exact hparts part (List.mem_cons_of_mem _ hpart)
      rw [joined_cons_cons]
      exact .more hfirst hrest

/-- The same part again and again. -/
theorem many_replicate {part : Sql} {between : Token} {n : Nat} (hne : n ≠ 0) :
    Many (· = part) between n (joined [between] (List.replicate n part)) := by
  have hmany : Many (· = part) between (List.replicate n part).length (joined [between] (List.replicate n part)) := by
    apply many_joined
    · rw [Ne, List.replicate_eq_nil_iff]
      exact hne
    · intro other hother
      exact (List.mem_replicate.mp hother).2
  rwa [List.length_replicate] at hmany

/-! ## What has no order and no limit -/

/-- Without an order and without a limit. -/
structure Unordered (sql : Sql) : Prop where
  order : Token.keyword .ORDER ∉ sql
  limit : Token.keyword .LIMIT ∉ sql

@[simp]
theorem unordered_nil : Unordered [] := ⟨List.not_mem_nil, List.not_mem_nil⟩

@[simp]
theorem unordered_cons {token : Token} {sql : Sql} :
    Unordered (token :: sql) ↔ (token ≠ .keyword .ORDER ∧ token ≠ .keyword .LIMIT) ∧ Unordered sql := by
  constructor
  · rintro ⟨horder, hlimit⟩
    rw [List.mem_cons, not_or] at horder hlimit
    exact ⟨⟨Ne.symm horder.1, Ne.symm hlimit.1⟩, horder.2, hlimit.2⟩
  · rintro ⟨⟨horder, hlimit⟩, hrest⟩
    constructor
    · rw [List.mem_cons, not_or]
      exact ⟨Ne.symm horder, hrest.order⟩
    · rw [List.mem_cons, not_or]
      exact ⟨Ne.symm hlimit, hrest.limit⟩

@[simp]
theorem unordered_append {first second : Sql} : Unordered (first ++ second) ↔ Unordered first ∧ Unordered second := by
  induction first with
  | nil => simp
  | cons token rest ih => simp [ih, and_assoc]

theorem Table.unordered {sql : Sql} (h : Table sql) : Unordered sql := by
  cases h <;> simp

theorem Many.unordered {Part : Sql → Prop} {between : Token} {n : Nat} {sql : Sql} (h : Many Part between n sql)
    (hpart : ∀ part, Part part → Unordered part) (hbetween : Unordered [between]) : Unordered sql := by
  induction h with
  | one h => exact hpart _ h
  | more h hrest ih =>
    have hcons := unordered_cons.mp hbetween
    exact unordered_append.mpr ⟨hpart _ h, unordered_cons.mpr ⟨hcons.1, ih⟩⟩

theorem Predicate.unordered {sql : Sql} (h : Predicate sql) : Unordered sql := by
  induction h with
  | not h ih => simpa [parenthesized] using ih
  | _ => simp [parenthesized]

theorem Conditions.unordered {sql : Sql} (h : Conditions sql) : Unordered sql := by
  cases h with
  | all => exact unordered_nil
  | those h =>
    have hpredicates := h.unordered (fun _ => Predicate.unordered) (by simp)
    simpa using hpredicates

theorem Clause.unordered {sql : Sql} (h : Clause sql) : Unordered sql := by
  cases h with
  | every h => exact h.unordered
  | one htable h => simpa [parenthesized] using And.intro htable.unordered h.unordered

theorem Write.unordered {sql : Sql} (h : Write sql) : Unordered sql := by
  have hsame {part : Sql} (hpart : Unordered part) : ∀ sql, sql = part → Unordered sql := by
    rintro _ rfl
    exact hpart
  have hcomma : Unordered [.mark .comma] := by simp
  cases h with
  | insert htable hcolumns harguments =>
    have hcolumns := hcolumns.unordered (hsame (by simp)) hcomma
    have harguments := harguments.unordered (hsame (by simp)) hcomma
    simp [parenthesized, htable.unordered, hcolumns, harguments]
  | insertDefaults htable => simp [htable.unordered]
  | update htable hassignments hclause =>
    have hassignments := hassignments.unordered (hsame (by simp)) hcomma
    simp [htable.unordered, hassignments, hclause.unordered]
  | delete htable hclause => simp [htable.unordered, hclause.unordered]

theorem Write.exists_head {sql : Sql} (h : Write sql) : ∃ word, word ≠ .SELECT ∧ sql.head? = some (.keyword word) := by
  cases h with
  | insert => exact ⟨.INSERT, by decide, rfl⟩
  | insertDefaults => exact ⟨.INSERT, by decide, rfl⟩
  | update => exact ⟨.UPDATE, by decide, rfl⟩
  | delete => exact ⟨.DELETE, by decide, rfl⟩

/-- **Only what reads is ordered and limited.** -/
theorem Statement.reads_or_unordered {sql : Sql} (h : Statement sql) :
    sql.head? = some (.keyword .SELECT) ∨ Unordered sql := by
  cases h with
  | read => exact .inl rfl
  | write hwrite hreturning =>
    right
    rw [unordered_append]
    refine ⟨hwrite.unordered, ?_⟩
    cases hreturning <;> simp

end ModelStore.Sql.Grammar

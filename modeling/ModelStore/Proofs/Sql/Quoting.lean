import ModelStore.Proofs.Sql.Lexer

/-!
# A quoted name says where it ends

Whatever is written by way of a name of a table, a schema or a column is a name between quotes, and it is followed by
something: a point, a comma, a blank, the end of the text. `readName` reads a name off the front of a text without
knowing what is to come, and it takes the quoted name and no character more, unless a further quote follows
(`readName_eq_some_iff`: these are the only texts off which it reads that name).

So the text of a table's name, with its schema before it or without, **tells which table and which schema were meant**.
An empty schema is written like none, and this is the only ambiguity: a point that is part of a name stands between
quotes, so no table's name alone can be mistaken for a schema and a table.
-/

namespace ModelStore

/-! ## Reading a name -/

/-- Reads a quoted name off the front of a text; gives the name and what follows it. -/
def readName (text : String) : Option (String × String) :=
  match text.toList with
  | [] => none
  | c :: inside =>
    if c = Text.doubleQuote then
      (unquoteChars inside).map fun (name, rest) => (String.ofList name, String.ofList rest)
    else none

/-- The inside of a quoted name is read only off what was doubled, up to a quote without a partner. -/
theorem of_unquoteChars {cs name rest : List Char} (h : unquoteChars cs = some (name, rest)) :
    cs = doubledChars name ++ Text.doubleQuote :: rest ∧ rest.head? ≠ some Text.doubleQuote := by
  fun_induction unquoteChars cs generalizing name rest with
  | case1 => exact absurd h (by simp)
  | case2 =>
    obtain ⟨rfl, rfl⟩ := Prod.mk.inj (Option.some.inj h)
    exact ⟨rfl, by simp⟩
  | case3 => exact absurd h (by simp)
  | case4 more ih =>
    obtain ⟨⟨name', rest'⟩, hinner, heq⟩ := Option.map_eq_some_iff.mp h
    obtain ⟨rfl, rfl⟩ := Prod.mk.inj heq
    obtain ⟨rfl, hrest⟩ := ih hinner
    exact ⟨by simp [doubledChars], hrest⟩
  | case5 d more hpartner =>
    obtain ⟨rfl, rfl⟩ := Prod.mk.inj (Option.some.inj h)
    exact ⟨rfl, by simpa using hpartner⟩
  | case6 c d more hquote ih =>
    obtain ⟨⟨name', rest'⟩, hinner, heq⟩ := Option.map_eq_some_iff.mp h
    obtain ⟨rfl, rfl⟩ := Prod.mk.inj heq
    obtain ⟨hmore, hrest⟩ := ih hinner
    exact ⟨by simp [doubledChars, hquote, hmore], hrest⟩

theorem toList_quotedName_append (name rest : String) :
    (quotedName name ++ rest).toList =
      Text.doubleQuote :: (doubledChars name.toList ++ Text.doubleQuote :: rest.toList) := by
  simp [quotedName]

/-- **What is read is what was written, and the whole of it.** -/
theorem readName_quotedName (name rest : String) (hrest : rest.toList.head? ≠ some Text.doubleQuote) :
    readName (quotedName name ++ rest) = some (name, rest) := by
  unfold readName
  rw [toList_quotedName_append]
  dsimp only
  rw [if_pos rfl, unquoteChars_doubledChars _ _ hrest, Option.map_some, String.ofList_toList, String.ofList_toList]

/-- **A name is read off exactly the texts that begin with it**, quoted, and no further quote. -/
theorem readName_eq_some_iff {text name rest : String} :
    readName text = some (name, rest) ↔
      text = quotedName name ++ rest ∧ rest.toList.head? ≠ some Text.doubleQuote := by
  constructor
  · intro h
    unfold readName at h
    split at h
    case h_1 => cases h
    case h_2 c inside htext =>
      split at h
      case isFalse => cases h
      case isTrue hquote =>
        obtain ⟨⟨name', rest'⟩, hinside, heq⟩ := Option.map_eq_some_iff.mp h
        obtain ⟨rfl, rfl⟩ := Prod.mk.inj heq
        obtain ⟨rfl, hrest⟩ := of_unquoteChars hinside
        refine ⟨?_, by simpa using hrest⟩
        apply String.toList_injective
        rw [htext, hquote, toList_quotedName_append, String.toList_ofList, String.toList_ofList]
  · rintro ⟨rfl, hrest⟩
    exact readName_quotedName name rest hrest

/-! ## Reading a table's name -/

namespace Sql

/-- A table's name as it is written, after its schema's if one is given. -/
def tableText (table : String) (schema : Option String) : String :=
  (tableName (.text table) (schema.elim .null .text)).render

/-- Without a schema, or with an empty one, the name of the table is all there is. -/
theorem tableText_of_empty (table : String) {schema : Option String} (h : schema.getD "" = "") :
    tableText table schema = quotedName table := by
  have hnone : (schema.elim Value.null Value.text).holds = false := by
    cases schema with
    | none => rfl
    | some name =>
      obtain rfl : name = "" := h
      rfl
  simp [tableText, tableName, hnone, render, Token.text, Value.plain]

theorem tableText_of_named (table : String) {schema : Option String} (h : schema.getD "" ≠ "") :
    tableText table schema = quotedName (schema.getD "") ++ ("." ++ quotedName table) := by
  cases schema with
  | none => exact absurd rfl h
  | some name =>
    have hname : (Value.text name).holds = true := by simpa [Value.holds] using h
    simp [tableText, tableName, hname, render, Token.text, Mark.text, Value.plain]

/-- What is read first off a table's text: the schema, with the point and the table left over, or the table, with
nothing left over. -/
theorem readName_tableText (table : String) (schema : Option String) :
    readName (tableText table schema) =
      if schema.getD "" = "" then some (table, "") else some (schema.getD "", "." ++ quotedName table) := by
  split
  case isTrue h =>
    have hread := readName_quotedName table "" (by simp)
    rwa [String.append_empty, ← tableText_of_empty table h] at hread
  case isFalse h =>
    rw [tableText_of_named table h]
    exact readName_quotedName _ _ (by simp [Text.doubleQuote])

theorem quotedName_injective {name name' : String} (h : quotedName name = quotedName name') : name = name' := by
  have hread := readName_quotedName name "" (by simp)
  have hread' := readName_quotedName name' "" (by simp)
  rw [h, hread'] at hread
  exact (Prod.mk.inj (Option.some.inj hread)).1.symm

/-- A table and a schema leave something over, a table alone does not. -/
theorem tableText_ne_of_named (table table' : String) {schema schema' : Option String} (h : schema.getD "" = "")
    (h' : schema'.getD "" ≠ "") : tableText table schema ≠ tableText table' schema' := by
  intro heq
  have hread := readName_tableText table schema
  rw [heq, readName_tableText, if_pos h, if_neg h'] at hread
  have hrest : "." ++ quotedName table' = "" := (Prod.mk.inj (Option.some.inj hread)).2
  exact absurd (congrArg String.toList hrest) (by simp)

theorem tableText_inj {table table' : String} {schema schema' : Option String} :
    tableText table schema = tableText table' schema' ↔ table = table' ∧ schema.getD "" = schema'.getD "" := by
  by_cases h : schema.getD "" = "" <;> by_cases h' : schema'.getD "" = ""
  · rw [tableText_of_empty table h, tableText_of_empty table' h', h, h']
    exact ⟨fun heq => ⟨quotedName_injective heq, rfl⟩, fun heq => by rw [heq.1]⟩
  · refine iff_of_false (tableText_ne_of_named table table' h h') ?_
    rintro ⟨-, hschema⟩
    exact h' (hschema ▸ h)
  · refine iff_of_false (tableText_ne_of_named table' table h' h).symm ?_
    rintro ⟨-, hschema⟩
    exact h (hschema ▸ h')
  · constructor
    · intro heq
      have hread := readName_tableText table schema
      rw [heq, readName_tableText, if_neg h, if_neg h'] at hread
      obtain ⟨hschema, hrest⟩ := Prod.mk.inj (Option.some.inj hread)
      have hquoted : quotedName table' = quotedName table := String.append_right_inj "." |>.mp hrest
      exact ⟨(quotedName_injective hquoted).symm, hschema.symm⟩
    · rintro ⟨rfl, hschema⟩
      rw [tableText_of_named table h, tableText_of_named table h', hschema]

/-- **Quoting delimits itself and can be undone.** A name is read back, with what follows it left over, if that does
not begin with a quote; what is written for a table tells the table and the schema, no schema being the same as an
empty one; and a table's name alone is written like no table's name with a schema. -/
theorem quoting_delimits :
    (∀ name rest : String, rest.toList.head? ≠ some Text.doubleQuote →
      readName (quotedName name ++ rest) = some (name, rest)) ∧
    (∀ (table table' : String) (schema schema' : Option String),
      tableText table schema = tableText table' schema' ↔ table = table' ∧ schema.getD "" = schema'.getD "") ∧
    ∀ (table table' schema : String), schema ≠ "" → tableText table none ≠ tableText table' (some schema) :=
  ⟨readName_quotedName, fun _ _ _ _ => tableText_inj,
    fun table table' _ hschema => tableText_ne_of_named table table' rfl hschema⟩

/-- A table whose name reads like a schema, a point and a table. -/
theorem quoting_delimits_of_lookalike :
    readName (quotedName "a\".\"b" ++ ".\"c\"") = some ("a\".\"b", ".\"c\"") ∧
      tableText "a\".\"b" none ≠ tableText "b" (some "a") := by
  obtain ⟨hread, -, hne⟩ := quoting_delimits
  exact ⟨hread _ _ (by decide), hne _ _ _ (by decide)⟩

end Sql
end ModelStore

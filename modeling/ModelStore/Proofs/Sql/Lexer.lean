import Mathlib.Data.List.Chain
import ModelStore.Sql

/-!
# Reading a statement back

What storage gets is a text, and what the text says is what a *lexer* makes of it: blanks are skipped, a
quoted name goes on to the quote that has no partner, and everything else is taken as long as it can be: a run
of letters, digits and dollar signs is one word, a run of operator characters one operator. `lex` is that
lexer. It knows nothing of how statements are put together, and refuses what it does not know: a word that is
no keyword, an operator that is none of ours, a quote that is not closed.

**A statement is read back as it was put together, but for the blanks** (`lex_render`), if it is *legible*: of
any two neighbours one is a blank or a punctuation mark. It has to be, since two words that touch are one
word, and of two names that touch the quotes between are one quote.
-/

namespace ModelStore

/-! ## Quoted names -/

/-- Reading a name back takes some of the text. -/
theorem length_of_unquoteChars {cs name rest : List Char} (h : unquoteChars cs = some (name, rest)) :
    rest.length < cs.length := by
  fun_induction unquoteChars cs generalizing name rest with
  | case1 => exact absurd h (by simp)
  | case2 =>
    obtain ⟨-, rfl⟩ := Prod.mk.inj (Option.some.inj h)
    simp
  | case3 => exact absurd h (by simp)
  | case4 more ih =>
    obtain ⟨⟨name', rest'⟩, hinner, heq⟩ := Option.map_eq_some_iff.mp h
    obtain ⟨-, rfl⟩ := Prod.mk.inj heq
    have hlt := ih hinner
    simp only [List.length_cons]
    omega
  | case5 =>
    obtain ⟨-, rfl⟩ := Prod.mk.inj (Option.some.inj h)
    simp
  | case6 c d more _ ih =>
    obtain ⟨⟨name', rest'⟩, hinner, heq⟩ := Option.map_eq_some_iff.mp h
    obtain ⟨-, rfl⟩ := Prod.mk.inj heq
    have hlt := ih hinner
    simp only [List.length_cons] at hlt ⊢
    omega

/-- **A quoted name is read back, whatever it holds**, if no further quote follows it. -/
theorem unquoteChars_doubledChars (name rest : List Char) (hrest : rest.head? ≠ some Text.doubleQuote) :
    unquoteChars (doubledChars name ++ Text.doubleQuote :: rest) = some (name, rest) := by
  induction name with
  | nil =>
    cases rest with
    | nil => rfl
    | cons d rest =>
      have hd : d ≠ Text.doubleQuote := by simpa using hrest
      simp [doubledChars, unquoteChars, hd]
  | cons c name ih =>
    by_cases hc : c = Text.doubleQuote
    · subst hc
      simp [doubledChars, unquoteChars, ih]
    · -- the character stands for itself, and something follows it: the closing quote at least
      obtain ⟨d, more, hmore⟩ : ∃ d more, doubledChars name ++ Text.doubleQuote :: rest = d :: more :=
        List.exists_cons_of_ne_nil (by simp)
      rw [hmore] at ih
      simp [doubledChars, hc, hmore, unquoteChars, ih]

namespace Sql

/-! ## The lexer -/

def isWordChar (c : Char) : Bool := c.isAlphanum || c == '_' || c == '$'

def isOperatorChar (c : Char) : Bool := "+-*/<>=~!@#%^&|`?".toList.contains c

def number? (run : List Char) : Option Nat :=
  if run.isEmpty || !run.all Char.isDigit then none else some (Nat.ofDigitChars 10 run 0)

def stock : List Keyword :=
  [.AND, .ANY, .ASC, .BY, .DEFAULT, .DELETE, .DESC, .FROM, .INSERT, .INTO, .IS, .LIMIT, .NOT, .NULL,
    .ORDER, .RETURNING, .SELECT, .SET, .UPDATE, .VALUES, .WHERE]

/-- A run of word characters: a placeholder, a number, or a keyword. -/
def word? : List Char → Option Token
  | '$' :: digits => (number? digits).map .placeholder
  | run => match number? run with
    | some n => some (.number n)
    | none => (stock.find? fun word => word.text.toList == run).map .keyword

def operator? (run : List Char) : Option Token :=
  ([.star, .equal, .notEqual, .less, .greater, .atMost, .atLeast].find? fun m : Mark =>
    m.text.toList == run).map .mark

def punctuation? (c : Char) : Option Token :=
  ([.opening, .closing, .comma, .point].find? fun m : Mark => m.text.toList == [c]).map .mark

/-- **Reads a text as tokens**; none if it cannot be read. -/
def lexChars : List Char → Option Sql
  | [] => some []
  | c :: rest =>
    if c = ' ' then lexChars rest
    else if c = Text.doubleQuote then
      match _hread : unquoteChars rest with
      | none => none
      | some (name, after) => (lexChars after).map (.name (String.ofList name) :: ·)
    else if isWordChar c then
      (word? (c :: rest.takeWhile isWordChar)).bind fun token =>
        (lexChars (rest.dropWhile isWordChar)).map (token :: ·)
    else if isOperatorChar c then
      (operator? (c :: rest.takeWhile isOperatorChar)).bind fun token =>
        (lexChars (rest.dropWhile isOperatorChar)).map (token :: ·)
    else
      (punctuation? c).bind fun token => (lexChars rest).map (token :: ·)
termination_by cs => cs.length
decreasing_by
  · simp
  · exact Nat.lt_succ_of_lt (length_of_unquoteChars _hread)
  · exact Nat.lt_succ_of_le (List.dropWhile_sublist _).length_le
  · exact Nat.lt_succ_of_le (List.dropWhile_sublist _).length_le
  · simp

def lex (text : String) : Option Sql := lexChars text.toList

/-! ## Tokens that may touch -/

/-- Blanks and punctuation may stand next to anything. -/
def Token.isLoose : Token → Bool
  | blank => true
  | mark m => [.opening, .closing, .comma, .point].contains m
  | _ => false

/-- A statement no two neighbours of which could be taken for one, and without text of somebody else's. -/
structure Legible (sql : Sql) : Prop where
  apart : sql.IsChain fun t u => t.isLoose = true ∨ u.isLoose = true
  ours : ∀ t ∈ sql, ∀ s, t ≠ .verbatim s

/-- A text at which every word, operator and name before it ends. -/
def Ends (rest : List Char) : Prop :=
  ∀ c ∈ rest.head?, isWordChar c = false ∧ isOperatorChar c = false ∧ c ≠ Text.doubleQuote

/-- A mark that may stand next to anything is one character. -/
theorem mark_of_loose {m : Mark} (h : (Token.mark m).isLoose = true) :
    ∃ c ∈ ['(', ')', ',', '.'], m.text.toList = [c] ∧ punctuation? c = some (.mark m) := by
  cases m with
  | opening => exact ⟨'(', by simp, rfl, rfl⟩
  | closing => exact ⟨')', by simp, rfl, rfl⟩
  | comma => exact ⟨',', by simp, rfl, rfl⟩
  | point => exact ⟨'.', by simp, rfl, rfl⟩
  | _ => exact absurd h (by decide)

/-- No character is of two kinds. -/
theorem kind_of_punctuation {c : Char} (h : c ∈ ['(', ')', ',', '.']) :
    c ≠ ' ' ∧ c ≠ Text.doubleQuote ∧ isWordChar c = false ∧ isOperatorChar c = false := by
  simp only [List.mem_cons, List.not_mem_nil, or_false] at h
  rcases h with rfl | rfl | rfl | rfl <;> decide

theorem kind_of_operator {c : Char} (h : isOperatorChar c = true) :
    c ≠ ' ' ∧ c ≠ Text.doubleQuote ∧ isWordChar c = false := by
  have hstock : ("+-*/<>=~!@#%^&|`?".toList.all fun c =>
      c != ' ' && (c != Text.doubleQuote && !isWordChar c)) = true := by decide
  have hc := List.all_eq_true.mp hstock c (by simpa [isOperatorChar] using h)
  simpa using hc

theorem ends_of_loose {token : Token} (h : token.isLoose = true) (rest : List Char) :
    Ends (token.text.toList ++ rest) := by
  intro d hd
  cases token with
  | blank =>
    obtain rfl : ' ' = d := by simpa [Token.text] using hd
    decide
  | mark m =>
    obtain ⟨c, hc, htext, -⟩ := mark_of_loose h
    obtain ⟨-, hquote, hword, hoperator⟩ := kind_of_punctuation hc
    rw [Token.text, htext] at hd
    obtain rfl : c = d := by simpa using hd
    exact ⟨hword, hoperator, hquote⟩
  | _ => exact absurd h (by simp [Token.isLoose])

theorem ends_nil : Ends [] := by
  intro c hc
  exact absurd hc (by simp)

/-! ## Reading back -/

theorem takeWhile_of_all {p : Char → Bool} {run rest : List Char} (hrun : ∀ c ∈ run, p c = true)
    (hrest : ∀ c ∈ rest.head?, p c = false) :
    (run ++ rest).takeWhile p = run ∧ (run ++ rest).dropWhile p = rest := by
  rw [List.takeWhile_append_of_pos hrun, List.dropWhile_append_of_pos hrun]
  cases rest with
  | nil => simp
  | cons d rest =>
    have hd : p d = false := hrest d (by simp)
    simp [hd]

/-- A word is read up to its end. -/
theorem lexChars_word {token : Token} {run rest : List Char} (hne : run ≠ [])
    (hrun : ∀ c ∈ run, isWordChar c = true) (hword : word? run = some token) (hrest : Ends rest) :
    lexChars (run ++ rest) = (lexChars rest).map (token :: ·) := by
  obtain ⟨c, more, rfl⟩ := List.exists_cons_of_ne_nil hne
  have hc : isWordChar c = true := hrun c List.mem_cons_self
  have hblank : c ≠ ' ' := by rintro rfl; exact absurd hc (by decide)
  have hquote : c ≠ Text.doubleQuote := by rintro rfl; exact absurd hc (by decide)
  obtain ⟨htake, hdrop⟩ := takeWhile_of_all (fun d hd => hrun d (List.mem_cons_of_mem _ hd))
    fun d hd => (hrest d hd).1
  rw [List.cons_append, lexChars, if_neg hblank, if_neg hquote, if_pos hc, htake, hdrop, hword,
    Option.bind_some]

/-- And so is an operator. -/
theorem lexChars_operator {token : Token} {run rest : List Char} (hne : run ≠ [])
    (hrun : ∀ c ∈ run, isOperatorChar c = true) (hoperator : operator? run = some token)
    (hrest : Ends rest) : lexChars (run ++ rest) = (lexChars rest).map (token :: ·) := by
  obtain ⟨c, more, rfl⟩ := List.exists_cons_of_ne_nil hne
  have hc : isOperatorChar c = true := hrun c List.mem_cons_self
  obtain ⟨hblank, hquote, hword⟩ := kind_of_operator hc
  obtain ⟨htake, hdrop⟩ := takeWhile_of_all (fun d hd => hrun d (List.mem_cons_of_mem _ hd))
    fun d hd => (hrest d hd).2.1
  rw [List.cons_append, lexChars, if_neg hblank, if_neg hquote, if_neg (by simp [hword]), if_pos hc, htake,
    hdrop, hoperator, Option.bind_some]

theorem lexChars_punctuation {token : Token} {c : Char} {rest : List Char} (h : c ∈ ['(', ')', ',', '.'])
    (hmark : punctuation? c = some token) :
    lexChars (c :: rest) = (lexChars rest).map (token :: ·) := by
  obtain ⟨hblank, hquote, hword, hoperator⟩ := kind_of_punctuation h
  rw [lexChars, if_neg hblank, if_neg hquote, if_neg (by simp [hword]), if_neg (by simp [hoperator]), hmark,
    Option.bind_some]

theorem lexChars_name (name : String) {rest : List Char} (hrest : Ends rest) :
    lexChars ((quotedName name).toList ++ rest) = (lexChars rest).map (.name name :: ·) := by
  have hnext : rest.head? ≠ some Text.doubleQuote := fun h => (hrest _ h).2.2 rfl
  have hread := unquoteChars_doubledChars name.toList rest hnext
  have htext : (quotedName name).toList ++ rest
      = Text.doubleQuote :: (doubledChars name.toList ++ Text.doubleQuote :: rest) := by
    simp [quotedName]
  rw [htext, lexChars, if_neg (by decide), if_pos rfl]
  split
  · next hnone => exact absurd (hread.symm.trans hnone) (by simp)
  · next name' after hsome =>
    obtain ⟨rfl, rfl⟩ := Prod.mk.inj (Option.some.inj (hread.symm.trans hsome))
    rw [String.ofList_toList]

theorem number?_toDigits (n : Nat) : number? (Nat.toDigits 10 n) = some n := by
  have hdigits : (Nat.toDigits 10 n).all Char.isDigit = true :=
    List.all_eq_true.mpr fun c hc => Nat.isDigit_of_mem_toDigits (by decide) (by decide) hc
  have hne : (Nat.toDigits 10 n).isEmpty = false := List.isEmpty_eq_false_iff.mpr Nat.toDigits_ne_nil
  rw [number?, hne, hdigits, Nat.ofDigitChars_toDigits (by decide) (by decide)]
  rfl

theorem isDigit_of_mem (n : Nat) {c : Char} (h : c ∈ Nat.toDigits 10 n) : c.isDigit = true :=
  Nat.isDigit_of_mem_toDigits (by decide) (by decide) h

theorem word?_toDigits (n : Nat) : word? (Nat.toDigits 10 n) = some (.number n) := by
  have hdollar : ∀ digits, Nat.toDigits 10 n ≠ '$' :: digits := by
    intro digits h
    exact absurd (isDigit_of_mem n (h ▸ List.mem_cons_self)) (by decide)
  unfold word?
  split
  · next digits h => exact absurd h (hdollar digits)
  · rw [number?_toDigits]

theorem isWordChar_of_isDigit {c : Char} (h : c.isDigit = true) : isWordChar c = true := by
  simp [isWordChar, Char.isAlphanum, h]

theorem word?_text (word : Keyword) :
    word.text.toList ≠ [] ∧ word.text.toList.all isWordChar = true ∧
      word? word.text.toList = some (.keyword word) := by
  cases word <;> decide

theorem operator?_text {m : Mark} (h : (Token.mark m).isLoose ≠ true) :
    m.text.toList ≠ [] ∧ m.text.toList.all isOperatorChar = true ∧
      operator? m.text.toList = some (.mark m) := by
  cases m <;> revert h <;> decide

/-- **Every token is read off the text that begins with it**, if a token that may not touch the next one does
not. -/
theorem lexChars_token {token : Token} {rest : List Char} (hblank : token ≠ .blank)
    (hours : ∀ s, token ≠ .verbatim s) (hrest : token.isLoose = true ∨ Ends rest) :
    lexChars (token.text.toList ++ rest) = (lexChars rest).map (token :: ·) := by
  cases token with
  | blank => exact absurd rfl hblank
  | verbatim s => exact absurd rfl (hours s)
  | name s => exact lexChars_name s (hrest.resolve_left (by simp [Token.isLoose]))
  | keyword word =>
    have hends := hrest.resolve_left (by simp [Token.isLoose])
    obtain ⟨hne, hrun, hword⟩ := word?_text word
    exact lexChars_word hne (List.all_eq_true.mp hrun) hword hends
  | number n =>
    have hends := hrest.resolve_left (by simp [Token.isLoose])
    have htext : (Token.number n).text.toList = Nat.toDigits 10 n := by
      simp [Token.text]
    rw [htext]
    exact lexChars_word Nat.toDigits_ne_nil (fun c hc => isWordChar_of_isDigit (isDigit_of_mem n hc))
      (word?_toDigits n) hends
  | placeholder n =>
    have hends := hrest.resolve_left (by simp [Token.isLoose])
    have htext : (Token.placeholder n).text.toList = '$' :: Nat.toDigits 10 n := by
      simp [Token.text]
    rw [htext]
    refine lexChars_word (by simp) ?_ (by rw [word?, number?_toDigits]; rfl) hends
    intro c hc
    rcases List.mem_cons.mp hc with rfl | hc
    · decide
    · exact isWordChar_of_isDigit (isDigit_of_mem n hc)
  | mark m =>
    by_cases hloose : (Token.mark m).isLoose = true
    · obtain ⟨c, hc, htext, hmark⟩ := mark_of_loose hloose
      rw [Token.text, htext]
      exact lexChars_punctuation hc hmark
    · have hends := hrest.resolve_left hloose
      obtain ⟨hne, hrun, hoperator⟩ := operator?_text hloose
      exact lexChars_operator hne (List.all_eq_true.mp hrun) hoperator hends

/-- **What is written is read**, token by token, but for the blanks. -/
theorem lex_render {sql : Sql} (h : Legible sql) : lex sql.render = some (sql.filter (· ≠ .blank)) := by
  unfold lex
  induction sql with
  | nil => rw [render_nil]; exact lexChars.eq_1
  | cons token rest ih =>
    have hrest : Legible rest := ⟨h.apart.of_cons, fun t ht => h.ours t (List.mem_cons_of_mem _ ht)⟩
    rw [render_cons, String.toList_append]
    by_cases hblank : token = .blank
    · subst hblank
      have hskip : lexChars (' ' :: (render rest).toList) = lexChars (render rest).toList := by
        rw [lexChars, if_pos rfl]
      have hblank : Token.blank.text.toList ++ (render rest).toList = ' ' :: (render rest).toList := rfl
      rw [hblank, hskip, ih hrest]
      simp
    · have hends : token.isLoose = true ∨ Ends (render rest).toList := by
        cases rest with
        | nil => exact Or.inr ends_nil
        | cons next more =>
          rcases (List.isChain_cons_cons.mp h.apart).1 with hloose | hloose
          · exact Or.inl hloose
          · rw [render_cons, String.toList_append]
            exact Or.inr (ends_of_loose hloose _)
      rw [lexChars_token hblank (h.ours token List.mem_cons_self) hends, ih hrest]
      simp [hblank]

end Sql
end ModelStore

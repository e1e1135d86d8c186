import ModelStore.Proofs.Sql.Lexer

/-!
# What a statement says of names, arguments and nothing else

Of a statement three things are looked at: the *names* in it, in order; the *positions* of its placeholders,
in order; and its *outline*, which is the statement with all names and positions rubbed out. **Names and
positions are all that an outline leaves out**, so two statements with the same outline differ in nothing
else.

`Says` says all three of a part of a statement, and that it is legible. Parts that say so may be put
together: with a blank or a punctuation mark between them (`Says.glue`), between parentheses
(`Says.parenthesized`), or as an enumeration (`SayAll.joined`). A part is written after a number of
arguments that are bound already, and says how many more it refers to: one after the other, none twice and
none left out. What is put together from such parts refers to its arguments in the same way.
-/

namespace ModelStore.Sql

/-! ## Three views -/

def Token.name? : Token → Option String
  | name s => some s
  | _ => none

def Token.position? : Token → Option Nat
  | placeholder n => some n
  | _ => none

/-- A token without what it says of a name or an argument; blanks are no more than the space between. -/
def Token.outlined? : Token → Option Token
  | name _ => some (name "")
  | placeholder _ => some (placeholder 0)
  | blank => none
  | token => some token

def names (sql : Sql) : List String := sql.filterMap Token.name?

def positions (sql : Sql) : List Nat := sql.filterMap Token.position?

def outline (sql : Sql) : Sql := sql.filterMap Token.outlined?

theorem views_of_tokens (sql : Sql) :
    names (sql.filter (· ≠ .blank)) = names sql ∧ positions (sql.filter (· ≠ .blank)) = positions sql ∧
      outline (sql.filter (· ≠ .blank)) = outline sql := by
  have hsame : ∀ {β : Type} (view : Token → Option β), view .blank = none →
      (sql.filter (· ≠ .blank)).filterMap view = sql.filterMap view := by
    intro β view hblank
    rw [List.filterMap_filter]
    refine List.filterMap_congr ?_
    intro token _
    by_cases h : token = .blank
    · simp [h, hblank]
    · simp [h]
  exact ⟨hsame _ rfl, hsame _ rfl, hsame _ rfl⟩

/-! ## Legible parts -/

theorem legible_nil : Legible [] := ⟨List.isChain_nil, by simp⟩

theorem legible_singleton {token : Token} (h : ∀ s, token ≠ .verbatim s) : Legible [token] :=
  ⟨List.isChain_singleton token, by simpa using h⟩

theorem Legible.glue {first second : Sql} {token : Token} (hfirst : Legible first)
    (hsecond : Legible second) (hloose : token.isLoose = true) : Legible (first ++ token :: second) := by
  constructor
  · refine List.isChain_append.mpr ⟨hfirst.apart, List.isChain_cons.mpr ⟨?_, hsecond.apart⟩, ?_⟩
    · exact fun _ _ => Or.inl hloose
    · intro t _ u hu
      obtain rfl : token = u := by simpa using hu
      exact Or.inr hloose
  · intro t ht s
    rcases List.mem_append.mp ht with ht | ht
    · exact hfirst.ours t ht s
    · rcases List.mem_cons.mp ht with rfl | ht
      · rintro rfl
        exact absurd hloose (by simp [Token.isLoose])
      · exact hsecond.ours t ht s

/-! ## What a lexer sees -/

/-- What a lexer sees of a part of a statement. -/
def tight (sql : Sql) : Sql := sql.filter (· ≠ .blank)

theorem tight_append (first second : Sql) : tight (first ++ second) = tight first ++ tight second :=
  List.filter_append _ _

theorem tight_parenthesized (part : Sql) :
    tight (parenthesized part) = .mark .opening :: (tight part ++ [.mark .closing]) := by
  simp [parenthesized, tight]

/-! ## What a part says -/

/-- **What a part of a statement says**: after `bound` arguments, it refers to `count` more, in order. -/
structure Says (sql : Sql) (said : List String) (bound count : Nat) (seen : Sql) : Prop where
  legible : Legible sql
  names : names sql = said
  positions : positions sql = List.range' (bound + 1) count
  outline : outline sql = seen

theorem says_nil (bound : Nat) : Says [] [] bound 0 [] := ⟨legible_nil, rfl, rfl, rfl⟩

theorem says_keyword (word : Keyword) (bound : Nat) :
    Says [.keyword word] [] bound 0 [.keyword word] :=
  ⟨legible_singleton (by simp), rfl, rfl, rfl⟩

theorem says_mark (m : Mark) (bound : Nat) : Says [.mark m] [] bound 0 [.mark m] :=
  ⟨legible_singleton (by simp), rfl, rfl, rfl⟩

theorem says_number (n bound : Nat) : Says [.number n] [] bound 0 [.number n] :=
  ⟨legible_singleton (by simp), rfl, rfl, rfl⟩

theorem says_name (s : String) (bound : Nat) : Says [.name s] [s] bound 0 [.name ""] :=
  ⟨legible_singleton (by simp), rfl, rfl, rfl⟩

theorem says_placeholder (bound : Nat) : Says [.placeholder (bound + 1)] [] bound 1 [.placeholder 0] :=
  ⟨legible_singleton (by simp), rfl, rfl, rfl⟩

/-- **What a statement says is what is read back from its text.** -/
theorem Says.lexed {sql seen : Sql} {said : List String} {bound count : Nat}
    (h : Says sql said bound count seen) :
    ∃ tokens, lex (render sql) = some tokens ∧ Sql.names tokens = said ∧
      Sql.positions tokens = List.range' (bound + 1) count ∧ Sql.outline tokens = seen := by
  obtain ⟨hnames, hpositions, houtline⟩ := views_of_tokens sql
  refine ⟨sql.filter (· ≠ .blank), lex_render h.legible, ?_, ?_, ?_⟩
  · exact hnames.trans h.names
  · exact hpositions.trans h.positions
  · exact houtline.trans h.outline

section

variable {first second part seen seen' : Sql} {said said' : List String} {bound count count' : Nat}

/-- **Two parts with a loose token between them.** -/
theorem Says.glue (hfirst : Says first said bound count seen)
    (hsecond : Says second said' (bound + count) count' seen') {token : Token}
    (hloose : token.isLoose = true) :
    Says (first ++ token :: second) (said ++ said') bound (count + count')
      (seen ++ token.outlined?.toList ++ seen') := by
  have hname : token.name? = none := by
    cases token <;> first | rfl | exact absurd hloose (by simp [Token.isLoose])
  have hposition : token.position? = none := by
    cases token <;> first | rfl | exact absurd hloose (by simp [Token.isLoose])
  refine ⟨hfirst.legible.glue hsecond.legible hloose, ?_, ?_, ?_⟩
  · rw [Sql.names, List.filterMap_append, List.filterMap_cons_none hname, ← hfirst.names, ← hsecond.names]
    rfl
  · rw [Sql.positions, List.filterMap_append, List.filterMap_cons_none hposition]
    have hboth : List.range' (bound + 1) count ++ List.range' (bound + 1 + count) count'
        = List.range' (bound + 1) (count + count') := List.range'_append_1
    rw [← hboth, ← hfirst.positions, Nat.add_right_comm, ← hsecond.positions]
    rfl
  · rw [Sql.outline, List.filterMap_append, ← hfirst.outline, ← hsecond.outline]
    cases hout : token.outlined? with
    | none => simp [Sql.outline, List.filterMap_cons_none hout]
    | some token' => simp [Sql.outline, List.filterMap_cons_some hout]

theorem Says.then (hfirst : Says first said bound count seen)
    (hsecond : Says second said' (bound + count) count' seen') :
    Says (first ++ .blank :: second) (said ++ said') bound (count + count') (seen ++ seen') := by
  have hglued := hfirst.glue hsecond (show Token.blank.isLoose = true from rfl)
  simpa [Token.outlined?] using hglued

/-- A part in parentheses, right after another. -/
theorem Says.enclose (hfirst : Says first said bound count seen)
    (hsecond : Says second said' (bound + count) count' seen') :
    Says (first ++ Sql.parenthesized second) (said ++ said') bound (count + count')
      (seen ++ Sql.parenthesized seen') := by
  have hopen := hfirst.glue hsecond (show (Token.mark .opening).isLoose = true from rfl)
  have hclose := hopen.glue (says_nil _) (show (Token.mark .closing).isLoose = true from rfl)
  simpa [Sql.parenthesized, Token.outlined?] using hclose

theorem Says.parenthesized (h : Says first said bound count seen) :
    Says (Sql.parenthesized first) said bound count (Sql.parenthesized seen) := by
  simpa using (says_nil bound).enclose (by simpa using h)

/-- Two parts with a blank between them, unless the second is empty. -/
theorem Says.spaced (hfirst : Says first said bound count seen) (hne : first ≠ [])
    (hsecond : Says second said' (bound + count) count' seen') :
    Says (Sql.spaced [first, second]) (said ++ said') bound (count + count') (seen ++ seen') := by
  have hkept : (!first.isEmpty) = true := by simpa using hne
  cases second with
  | nil =>
    -- nothing says nothing
    obtain rfl : said' = [] := hsecond.names.symm
    obtain rfl : seen' = [] := hsecond.outline.symm
    obtain rfl : count' = 0 := by
      have hlength := congrArg List.length hsecond.positions
      simpa [Sql.positions] using hlength.symm
    simpa [Sql.spaced, Sql.joined, hkept] using hfirst
  | cons token second =>
    have hthen := hfirst.then hsecond
    simpa [Sql.spaced, Sql.joined, hkept] using hthen

theorem says_keywords (words : List Keyword) (bound : Nat) :
    Says (keywords words) [] bound 0 (words.map .keyword) := by
  induction words with
  | nil => exact says_nil bound
  | cons word words ih =>
    cases words with
    | nil => exact says_keyword word bound
    | cons next words =>
      have hthen := (says_keyword word bound).then ih
      simpa [keywords] using hthen

end

/-! ## Enumerations -/

/-- What the parts of an enumeration say, one after the other. -/
inductive SayAll : List Sql → List String → Nat → Nat → List Sql → Prop
  | nil (bound : Nat) : SayAll [] [] bound 0 []
  | cons {part seen : Sql} {parts seens : List Sql} {said saids : List String} {bound count counts : Nat}
      (hpart : Says part said bound count seen) (hparts : SayAll parts saids (bound + count) counts seens) :
      SayAll (part :: parts) (said ++ saids) bound (count + counts) (seen :: seens)

theorem joined_cons_cons (separator first second : Sql) (parts : List Sql) :
    joined separator (first :: second :: parts)
      = first ++ (separator ++ joined separator (second :: parts)) := by
  simp [joined, List.intersperse]

/-- Of a separator that is seen as one token, that token is seen between the parts. -/
theorem tight_joined {separator : Sql} {token : Token} (h : tight separator = [token]) (parts : List Sql) :
    tight (joined separator parts) = [token].intercalate (parts.map tight) := by
  induction parts with
  | nil => rfl
  | cons first parts ih =>
    cases parts with
    | nil => simp [joined]
    | cons second parts =>
      rw [joined_cons_cons, tight_append, tight_append, h, ih, List.map_cons, List.map_cons, List.map_cons,
        List.intercalate_cons_cons, List.append_assoc]

/-- A separator of legible parts, and what is seen of it. -/
def Separates (separator shown : Sql) : Prop :=
  ∀ {first second seen seen' : Sql} {said said' : List String} {bound count count' : Nat},
    Says first said bound count seen → Says second said' (bound + count) count' seen' →
      Says (first ++ (separator ++ second)) (said ++ said') bound (count + count')
        (seen ++ (shown ++ seen'))

theorem separates_comma : Separates [.mark .comma, .blank] [.mark .comma] := by
  intro first second seen seen' said said' bound count count' hfirst hsecond
  have hblank := (says_nil (bound + count)).then hsecond
  have hcomma := hfirst.glue hblank (show (Token.mark .comma).isLoose = true from rfl)
  simpa [Token.outlined?] using hcomma

theorem separates_and : Separates [.blank, .keyword .AND, .blank] [.keyword .AND] := by
  intro first second seen seen' said said' bound count count' hfirst hsecond
  have hand := (hfirst.then (says_keyword .AND (bound + count))).then hsecond
  simpa using hand

/-- **An enumeration says what its parts say.** -/
theorem SayAll.joined {parts seens : List Sql} {said : List String} {bound count : Nat}
    {separator shown : Sql} (hseparator : Separates separator shown)
    (h : SayAll parts said bound count seens) :
    Says (joined separator parts) said bound count (joined shown seens) := by
  induction h with
  | nil bound => exact says_nil bound
  | @cons part seen parts seens said saids bound count counts hpart hparts ih =>
    cases hparts with
    | nil => simpa [Sql.joined] using hpart
    | cons hnext hmore =>
      rw [joined_cons_cons, joined_cons_cons]
      exact hseparator hpart ih

end ModelStore.Sql

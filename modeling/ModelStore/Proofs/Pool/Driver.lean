import Mathlib.Data.List.Induction
import ModelStore.Proofs.Pool.Prospect

/-!
# What the driver is given

An address is accepted and handed on by two rules. Whether its engine is spoken is told from its scheme, of which what is
behind the first plus sign names a driver and does not count. The driver is given the address with the first `+asyncpg`
taken out, wherever that stands. **The two rules agree on the addresses that are `Address.Intact`**: the scheme names this
very driver, or it names none and `+asyncpg` is nowhere else either (`Address.driverText_eq_withoutDriver_iff`). Another
driver stays, and so does this one in capital letters; a password that reads like it does not.

In a registry a pool is opened at the start of a creation, with the address that was registered or that the registered
function gives then. What is created has been registered (`Registered`), and a creation that waits to start stays as it
is, whatever else happens (`waiting_act`). So what holds of one address holds of every pool that is opened in a course,
and the pool of an address that was just registered is sure to be opened with it (`opens_withoutDriver_iff`).
-/

namespace ModelStore

namespace Address

/-! ## A text taken out -/

section

variable {part : List Char}

theorem without_of_absent {cs : List Char} (h : ¬ part <:+: cs) : without part cs = cs := by
  induction cs with
  | nil => rfl
  | cons c rest ih =>
    have hstarts : part.isPrefixOf (c :: rest) = false := by
      rw [Bool.eq_false_iff]
      intro hstarts
      exact h (List.isPrefixOf_iff_prefix.mp hstarts).isInfix
    have hrest : ¬ part <:+: rest := fun hinside => h (hinside.trans (List.suffix_cons c rest).isInfix)
    rw [without, if_neg (by simp [hstarts]), ih hrest]

theorem length_without_of_present {cs : List Char} (h : part <:+: cs) :
    (without part cs).length + part.length = cs.length := by
  induction cs with
  | nil =>
    obtain rfl := List.infix_nil.mp h
    rfl
  | cons c rest ih =>
    rw [without]
    split
    case isTrue hstarts =>
      have hlength := (List.isPrefixOf_iff_prefix.mp hstarts).length_le
      rw [List.length_drop]
      omega
    case isFalse hstarts =>
      have hrest : part <:+: rest := by
        rcases List.infix_cons_iff.mp h with hstart | hlater
        · exact absurd (List.isPrefixOf_iff_prefix.mpr hstart) hstarts
        · exact hlater
      have hlength := ih hrest
      simp only [List.length_cons]
      omega

theorem without_eq_self_iff (hpart : part ≠ []) {cs : List Char} : without part cs = cs ↔ ¬ part <:+: cs := by
  constructor
  · intro hsame hinside
    have hlength := length_without_of_present hinside
    have hpos := List.length_pos_iff.mpr hpart
    rw [hsame] at hlength
    omega
  · exact without_of_absent

theorem without_self_append (hpart : part ≠ []) (rest : List Char) : without part (part ++ rest) = rest := by
  cases part with
  | nil => exact absurd rfl hpart
  | cons c part =>
    have hstarts : (c :: part).isPrefixOf (c :: (part ++ rest)) = true :=
      List.isPrefixOf_iff_prefix.mpr (List.prefix_append (c :: part) rest)
    rw [List.cons_append, without, if_pos hstarts]
    exact List.drop_left

/-- What is before the first character of a text is passed over. -/
theorem without_append {c : Char} {before : List Char} (hbefore : c ∉ before) (rest : List Char) :
    without (c :: part) (before ++ rest) = before ++ without (c :: part) rest := by
  induction before with
  | nil => rfl
  | cons d before ih =>
    obtain ⟨hne, hlater⟩ : c ≠ d ∧ c ∉ before := by simpa using hbefore
    have hstarts : ¬ (c :: part).isPrefixOf (d :: (before ++ rest)) = true := by
      simp [List.isPrefixOf, hne]
    rw [List.cons_append, without, if_neg hstarts, ih hlater, List.cons_append]

end

/-! ## Drivers in schemes -/

/-- The driver that is spoken to, as a scheme names it. -/
def driver : List Char := "+asyncpg".toList

/-- The engine that an address names: what is before the colon and before the driver. -/
def engine (address : String) : List Char := (address.toList.takeWhile (· != ':')).takeWhile (· != '+')

/-- The driver that an address names, with its plus sign, before the colon. -/
def driverSuffix (address : String) : List Char := (address.toList.takeWhile (· != ':')).dropWhile (· != '+')

/-- What follows the scheme, from the colon on. -/
def afterScheme (address : String) : List Char := address.toList.dropWhile (· != ':')

/-- An address without the driver that its scheme names. -/
def withoutDriver (address : String) : String := String.ofList (engine address ++ afterScheme address)

variable {address : String}

theorem toList_eq (address : String) :
    address.toList = engine address ++ (driverSuffix address ++ afterScheme address) := by
  unfold engine driverSuffix afterScheme
  rw [← List.append_assoc, List.takeWhile_append_dropWhile, List.takeWhile_append_dropWhile]

theorem plus_not_mem_engine (address : String) : '+' ∉ engine address := by
  intro hmem
  have hall := List.all_eq_true.mp List.all_takeWhile '+' hmem
  simp at hall

/-- So the driver is looked for behind the engine. -/
theorem without_engine (address : String) (rest : List Char) :
    without driver (engine address ++ rest) = engine address ++ without driver rest :=
  without_append (plus_not_mem_engine address) rest

/-- **Which addresses lose their driver and nothing else**: those that name this driver, and those that name none and do
not hold its name anywhere. -/
def Intact (address : String) : Prop :=
  driverSuffix address = driver ∨ driverSuffix address = [] ∧ ¬ driver <:+: address.toList

instance : DecidablePred Intact := fun _ => inferInstanceAs (Decidable (_ ∨ _ ∧ ¬ _))

theorem driverText_eq (address : String) :
    driverText address =
      String.ofList (engine address ++ without driver (driverSuffix address ++ afterScheme address)) := by
  rw [← without_engine, ← toList_eq]
  rfl

theorem head_driverSuffix (address : String) :
    driverSuffix address = [] ∨ ∃ rest, driverSuffix address = '+' :: rest := by
  unfold driverSuffix
  generalize address.toList.takeWhile (· != ':') = cs
  induction cs with
  | nil => exact .inl rfl
  | cons c cs ih =>
    by_cases hplus : c = '+'
    · subst hplus
      exact .inr ⟨cs, rfl⟩
    · rwa [List.dropWhile_cons_of_pos (by simpa using hplus)]

theorem not_plus_afterScheme (address : String) (rest : List Char) : afterScheme address ≠ '+' :: rest := by
  unfold afterScheme
  generalize address.toList = cs
  induction cs with
  | nil => simp
  | cons c cs ih =>
    by_cases hcolon : c = ':'
    · subst hcolon
      simp
    · rwa [List.dropWhile_cons_of_pos (by simpa using hcolon)]

/-- Another driver is not taken out: were it another name that is found behind it, the driver would still be there. -/
theorem driverSuffix_of_without (hsuffix : driverSuffix address ≠ [])
    (h : without driver (driverSuffix address ++ afterScheme address) = afterScheme address) :
    driverSuffix address = driver := by
  have hinside : driver <:+: driverSuffix address ++ afterScheme address := by
    refine Decidable.byContradiction fun hnot => hsuffix ?_
    have hsame := (without_of_absent hnot).symm.trans h
    simpa using hsame
  have hlength : (driverSuffix address).length = driver.length := by
    have := length_without_of_present hinside
    rw [h, List.length_append] at this
    omega
  obtain ⟨rest, hrest⟩ := (head_driverSuffix address).resolve_left hsuffix
  rw [hrest, List.cons_append, without] at h
  split at h
  case isTrue hstarts =>
    obtain ⟨later, hlater⟩ := List.isPrefixOf_iff_prefix.mp hstarts
    rw [← List.cons_append, ← hrest] at hlater
    exact (List.append_inj_left hlater hlength.symm).symm
  case isFalse => exact absurd h.symm (not_plus_afterScheme address _)

/-- **The driver's name is found where it stands exactly if the address is one of these.** -/
theorem driverText_eq_withoutDriver_iff (address : String) :
    driverText address = withoutDriver address ↔ Intact address := by
  have hdriver : driver ≠ [] := by decide
  rw [driverText_eq, withoutDriver, String.ofList_inj, List.append_cancel_left_eq]
  unfold Intact
  by_cases hsuffix : driverSuffix address = []
  · have hinside : driver <:+: address.toList ↔ driver <:+: afterScheme address := by
      rw [← not_iff_not, ← without_eq_self_iff hdriver, ← without_eq_self_iff hdriver, toList_eq, hsuffix,
        List.nil_append, without_engine, List.append_cancel_left_eq]
    rw [hinside, hsuffix, List.nil_append, without_eq_self_iff hdriver]
    simp [hdriver.symm]
  · constructor
    · intro hsame
      exact .inl (driverSuffix_of_without hsuffix hsame)
    · rintro (hsame | ⟨hnone, -⟩)
      · rw [hsame, without_self_append hdriver]
      · exact absurd hnone hsuffix

end Address
/-- The address of a database that is not there yet. A function is called for it, and gives this. -/
def Database.url? (given : Except Fault String) : Database → Option String
  | .ready _ => none
  | .address _ text => some text
  | .function _ => given.toOption

/-- An address of the engine. -/
def Address.Accepted (address : String) : Prop := (Address.scheme address).bind requireScheme = .ok ()

theorem Address.accepted_iff (address : String) :
    Accepted address ↔ ((Address.scheme address).bind requireScheme).isOk = true := by
  unfold Accepted
  cases (Address.scheme address).bind requireScheme with
  | ok accepted => exact iff_of_true rfl rfl
  | error fault => exact iff_of_false (fun h => by cases h) (fun h => by cases h)

instance : DecidablePred Address.Accepted := fun address => decidable_of_iff' _ (Address.accepted_iff address)

theorem Address.accept_eq_ok_iff {address found : String} :
    accept address = .ok found ↔ Accepted address ∧ found = address := by
  unfold accept Accepted
  cases (scheme address).bind requireScheme with
  | error fault => simp [Except.map]
  | ok accepted => simp [Except.map, eq_comm]

namespace Pools

open Course (after after_append after_concat)

variable {pools : Pools} {id : Nat} {creation : Creation} {name dsn url : String} {database : Database}
  {given : Except Fault String}

theorem Creation.address_eq_ok_iff (hready : ∀ own, creation.database ≠ .ready own) :
    (Creation.address creation given).1 = .ok url ↔ creation.database.url? given = some url := by
  unfold Creation.address
  cases hdatabase : creation.database with
  | ready own => exact absurd hdatabase (hready own)
  | address object text => simp [Database.url?]
  | function object =>
    cases given with
    | ok text => simp [Database.url?, Except.toOption]
    | error fault => simp [Database.url?, Except.toOption]

theorem Database.ne_ready_of_url? (hurl : database.url? given = some url) (own : Pool) : database ≠ .ready own := by
  rintro rfl
  cases hurl

/-- A creation that starts opens a pool. -/
theorem begin_of_accepted (hc : pools.creations[id]? = some ⟨name, database, .waiting⟩)
    (hurl : database.url? given = some url) (haccepted : Address.Accepted url) :
    (pools.begin id given).2 =
      (Creation.address ⟨name, database, .waiting⟩ given).2 ++ [.opened (Address.driverText url)] := by
  have haddress : (Creation.address ⟨name, database, .waiting⟩ given).1 = .ok url :=
    (Creation.address_eq_ok_iff (Database.ne_ready_of_url? hurl)).mpr hurl
  have hfound : Address.accept url = .ok url := Address.accept_eq_ok_iff.mpr ⟨haccepted, rfl⟩
  unfold begin
  simp only [hc, haddress, Except.bind, hfound]

/-- **Nothing else opens one.** -/
theorem of_opened (hmem : .opened dsn ∈ (pools.begin id given).2)
    (hready : ∀ creation ∈ pools.creations, ∀ own, creation.database ≠ .ready own) :
    ∃ creation url, pools.creations[id]? = some creation ∧ creation.database.url? given = some url ∧
      Address.Accepted url ∧ dsn = Address.driverText url := by
  unfold begin at hmem
  cases hc : pools.creations[id]? with
  | none =>
    rw [hc] at hmem
    cases hmem
  | some creation =>
    have hfirst : .opened dsn ∉ (Creation.address creation given).2 := by
      unfold Creation.address
      split <;> simp
    simp only [hc] at hmem
    split at hmem
    case h_2 => cases hmem
    cases haddress : (Creation.address creation given).1 with
    | error fault =>
      rw [haddress] at hmem
      exact absurd hmem hfirst
    | ok url =>
      rw [haddress] at hmem
      cases hfound : Address.accept url with
      | error fault =>
        simp only [Except.bind, hfound] at hmem
        exact absurd hmem hfirst
      | ok found =>
        simp only [Except.bind, hfound] at hmem
        obtain ⟨haccepted, rfl⟩ := Address.accept_eq_ok_iff.mp hfound
        refine ⟨creation, found, rfl, ?_, haccepted, by simpa [hfirst] using hmem⟩
        exact (Creation.address_eq_ok_iff (hready creation (List.mem_of_getElem? hc))).mp haddress

/-! ## Where creations come from -/

/-- What is registered, and what is being created, are what some acts have registered. -/
structure Registered (acts : List Act) (pools : Pools) : Prop where
  databases : ∀ name database, pools.databases.get? name = some database → .connect name database ∈ acts
  creations : ∀ creation ∈ pools.creations, .connect creation.name creation.database ∈ acts ∧
    ∀ own, creation.database ≠ .ready own

variable {acts : List Act} {pools' : Pools} {a : Act}

theorem Registered.mono (h : Registered acts pools) (hdatabases : pools'.databases = pools.databases)
    (hcreations : ∀ creation' ∈ pools'.creations, ∃ creation ∈ pools.creations,
      creation'.name = creation.name ∧ creation'.database = creation.database) :
    Registered (acts ++ [a]) pools' := by
  refine ⟨?_, ?_⟩
  · intro name database hget
    rw [hdatabases] at hget
    exact List.mem_append_left _ (h.databases name database hget)
  · intro creation' hmem'
    obtain ⟨creation, hmem, hname, hdatabase⟩ := hcreations creation' hmem'
    obtain ⟨hconnected, hready⟩ := h.creations creation hmem
    rw [hname, hdatabase]
    exact ⟨List.mem_append_left _ hconnected, hready⟩

theorem Registered.advance (h : Registered acts pools) (id : Nat) (progress : Progress) :
    Registered (acts ++ [a]) (pools.advance id progress) := by
  refine h.mono rfl ?_
  intro creation' hmem'
  obtain ⟨other, hother⟩ := List.mem_iff_getElem?.mp hmem'
  by_cases hid : id = other
  · obtain ⟨creation, hc, rfl⟩ : ∃ creation, pools.creations[other]? = some creation ∧
        { creation with progress := progress } = creation' := by simpa [Pools.advance, hid] using hother
    exact ⟨creation, List.mem_of_getElem? hc, rfl, rfl⟩
  · rw [creations_advance_of_ne hid] at hother
    exact ⟨creation', List.mem_of_getElem? hother, rfl, rfl⟩

theorem Registered.join (h : Registered acts pools) (hseeks : pools.seeks? name = some database) :
    Registered acts (pools.join name database).1 := by
  unfold Pools.join
  split
  · exact h
  · refine ⟨h.databases, ?_⟩
    intro creation hmem
    rcases List.mem_append.mp hmem with hold | hnew
    · exact h.creations creation hold
    · obtain rfl := List.mem_singleton.mp hnew
      exact ⟨h.databases name database (of_seeks hseeks).2, ne_ready_of_seeks hseeks⟩

theorem Registered.same (h : Registered acts pools) (hdatabases : pools'.databases = pools.databases)
    (hcreations : pools'.creations = pools.creations) : Registered (acts ++ [a]) pools' := by
  refine h.mono hdatabases ?_
  intro creation hmem
  exact ⟨creation, hcreations ▸ hmem, rfl, rfl⟩

/-- **An act registers and starts nothing that was not registered.** -/
theorem Registered.act {course : Course} (h : Registered acts course.pools) (a : Act) :
    Registered (acts ++ [a]) (course.act a).pools := by
  cases a with
  | connect name database =>
    refine ⟨?_, ?_⟩
    · intro other found hget
      by_cases hname : other = name
      · subst hname
        obtain rfl := Option.some.inj ((databases_connect _ other database).symm.trans hget)
        exact List.mem_append_right _ (List.mem_singleton.mpr rfl)
      · have hbefore : course.pools.databases.get? other = some found := by
          rw [← hget]
          exact (Association.get?_set_of_ne _ _ hname).symm
        exact List.mem_append_left _ (h.databases other found hbefore)
    · intro creation hmem
      obtain ⟨hconnected, hready⟩ := h.creations creation hmem
      exact ⟨List.mem_append_left _ hconnected, hready⟩
  | call name =>
    cases hseeks : course.pools.seeks? name with
    | some database =>
      simp only [Course.act, call_of_seeks hseeks]
      exact (h.join hseeks).same (databases_resume _ _) (creations_resume _ _)
    | none =>
      obtain ⟨ready, outcome, hcall, -⟩ := call_of_not_seeks hseeks
      simp only [Course.act, hcall]
      exact h.same rfl rfl
  | begin id given =>
    rcases begin_cases course.pools id given with hsame | ⟨progress, hadvanced, -⟩
    · simp only [Course.act, hsame]
      exact h.same rfl rfl
    · simp only [Course.act, hadvanced]
      exact h.advance id progress
  | finish id outcome =>
    rcases finish_cases course.pools id outcome with hsame | ⟨progress, hadvanced, -⟩
    · simp only [Course.act, hsame]
      exact h.same rfl rfl
    · simp only [Course.act, hadvanced]
      exact h.advance id progress
  | resume call =>
    simp only [Course.act]
    split
    · exact h.same (databases_resume _ _) (creations_resume _ _)
    · exact h.same rfl rfl
  | abandon call =>
    simp only [Course.act]
    split
    · exact h.same (databases_retire _ _) (creations_retire _ _)
    · exact h.same rfl rfl

theorem registered_after (acts : List Act) : Registered acts (after acts).pools := by
  induction acts using List.reverseRecOn with
  | nil =>
    refine ⟨?_, ?_⟩
    · intro name database hget
      cases hget
    · intro creation hmem
      cases hmem
  | append_singleton acts a ih =>
    rw [after_concat]
    exact ih.act a

/-! ## What becomes of a creation -/

/-- **A creation waits until it starts**, whatever else happens. -/
theorem waiting_act {course : Course} (hc : course.pools.creations[id]? = some ⟨name, database, .waiting⟩)
    (ha : ∀ given, a ≠ .begin id given) : (course.act a).pools.creations[id]? = some ⟨name, database, .waiting⟩ := by
  have hlt : id < course.pools.creations.length := (List.getElem?_eq_some_iff.mp hc).1
  cases a with
  | connect other registered => exact hc
  | call other => exact (creations_call _ other hlt).trans hc
  | begin started given =>
    have hne : started ≠ id := by
      rintro rfl
      exact ha given rfl
    rcases begin_cases course.pools started given with hsame | ⟨progress, hadvanced, -⟩
    · simp only [Course.act, hsame]
      exact hc
    · simp only [Course.act, hadvanced]
      exact (creations_advance_of_ne hne progress).trans hc
  | finish ended outcome =>
    by_cases hid : ended = id
    · subst hid
      have hwaiting : course.pools.finish ended outcome = course.pools := by
        simp [finish, Pools.progress, hc]
      simp only [Course.act, hwaiting]
      exact hc
    · rcases finish_cases course.pools ended outcome with hsame | ⟨progress, hadvanced, -⟩
      · simp only [Course.act, hsame]
        exact hc
      · simp only [Course.act, hadvanced]
        exact (creations_advance_of_ne hid progress).trans hc
  | resume call =>
    simp only [Course.act]
    split
    · rw [creations_resume, hc]
    · exact hc
  | abandon call =>
    simp only [Course.act]
    split
    · show (course.pools.retire _).creations[id]? = _
      rw [creations_retire, hc]
    · exact hc

theorem waiting_acts {course : Course} {more : List Act} (hmore : ∀ given, .begin id given ∉ more)
    (hc : course.pools.creations[id]? = some ⟨name, database, .waiting⟩) :
    (more.foldl Course.act course).pools.creations[id]? = some ⟨name, database, .waiting⟩ := by
  induction more generalizing course with
  | nil => exact hc
  | cons a more ih =>
    have hne : ∀ given, a ≠ .begin id given := by
      rintro given rfl
      exact hmore given List.mem_cons_self
    exact ih (fun given hmem => hmore given (List.mem_cons_of_mem _ hmem)) (waiting_act hc hne)

theorem seeks_connect (pools : Pools) (hready : ∀ own, database ≠ .ready own) :
    (pools.connect name database).seeks? name = some database := by
  unfold seeks?
  rw [ready_connect, databases_connect]
  cases database with
  | ready own => exact absurd rfl (hready own)
  | address object text => rfl
  | function object => rfl

theorem join_connect (pools : Pools) (name : String) (database : Database) :
    (pools.connect name database).join name database =
      ((pools.connect name database).create name database, ⟨name, database, pools.creations.length⟩) := by
  unfold join
  rw [current_connect]
  rfl

/-- **Who asks after registering an address waits for a creation of it**, which has not started. -/
theorem call_of_connect (course : Course) (name : String) (hready : ∀ own, database ≠ .ready own) :
    ∃ id, ((course.act (.connect name database)).act (.call name)).calls =
        course.calls ++ [.waits ⟨name, database, id⟩] ∧
      ((course.act (.connect name database)).act (.call name)).pools.creations[id]? =
        some ⟨name, database, .waiting⟩ := by
  have hcreated :
      ((course.pools.connect name database).create name database).creations[course.pools.creations.length]? =
        some ⟨name, database, .waiting⟩ := by simp [create, connect]
  have hnot : ∀ outcome, ((course.pools.connect name database).create name database).progress
      course.pools.creations.length ≠ .ended outcome := by
    intro outcome
    simp [Pools.progress, hcreated]
  have hcall : (course.pools.connect name database).call name =
      ((course.pools.connect name database).create name database,
        .waits ⟨name, database, course.pools.creations.length⟩) := by
    rw [call_of_seeks (seeks_connect course.pools hready), join_connect]
    exact resume_of_not_ended _ _ hnot
  refine ⟨course.pools.creations.length, ?_, ?_⟩
  · simp only [Course.act, hcall]
  · simp only [Course.act, hcall]
    exact hcreated

/-- **The address is given intact exactly if it is one of these.** In whatever course, every pool that is opened is
opened for an address of the engine, which was registered or is what a registered function gives when it is called; and
who registers such an address or function and asks for its pool waits for a creation, which opens one with the address
once it starts, whatever happens before. -/
theorem opens_withoutDriver_iff (acts : List Act) :
    (∀ id given dsn, .opened dsn ∈ ((after acts).pools.begin id given).2 →
      ∃ creation url, (after acts).pools.creations[id]? = some creation ∧
        .connect creation.name creation.database ∈ acts ∧ creation.database.url? given = some url ∧
        Address.Accepted url ∧ (dsn = Address.withoutDriver url ↔ Address.Intact url)) ∧
    ∀ name database, (∀ own, database ≠ .ready own) →
      ∃ id, (after (acts ++ [.connect name database, .call name])).calls =
          (after acts).calls ++ [.waits ⟨name, database, id⟩] ∧
        ∀ more, (∀ given, .begin id given ∉ more) →
          ∀ given url, database.url? given = some url → Address.Accepted url →
            ∃ dsn, ((after (acts ++ [.connect name database, .call name] ++ more)).pools.begin id given).2 =
                (Creation.address ⟨name, database, .waiting⟩ given).2 ++ [.opened dsn] ∧
              (dsn = Address.withoutDriver url ↔ Address.Intact url) := by
  refine ⟨?_, ?_⟩
  · intro id given dsn hmem
    have hregistered := registered_after acts
    obtain ⟨creation, url, hc, hurl, haccepted, rfl⟩ :=
      of_opened hmem fun creation hmem => (hregistered.creations creation hmem).2
    exact ⟨creation, url, hc, (hregistered.creations creation (List.mem_of_getElem? hc)).1, hurl, haccepted,
      Address.driverText_eq_withoutDriver_iff url⟩
  · intro name database hready
    obtain ⟨id, hcalls, hc⟩ := call_of_connect (after acts) name hready
    refine ⟨id, ?_, ?_⟩
    · rw [after_append]
      exact hcalls
    · intro more hmore given url hurl haccepted
      refine ⟨Address.driverText url, ?_, Address.driverText_eq_withoutDriver_iff url⟩
      rw [after_append, after_append]
      exact begin_of_accepted (waiting_acts hmore hc) hurl haccepted

/-- An address that names the driver, with a password that reads like it. -/
def named : String := "PostgreSQL+asyncpg://u:p+asyncpg@h/db"

theorem opens_of_named :
    Address.Accepted named ∧
      (∃ id, (after [.connect "db" (.function 0), .call "db"]).calls = [.waits ⟨"db", .function 0, id⟩] ∧
        ((after [.connect "db" (.function 0), .call "db", .connect "db" (.ready "own")]).pools.begin id
          (.ok named)).2 = [.called 0, .opened "PostgreSQL://u:p+asyncpg@h/db"]) ∧
      ∃ creation url, (after [.connect "db" (.function 0), .call "db"]).pools.creations[0]? = some creation ∧
        creation.database.url? (.ok named) = some url ∧
        ("PostgreSQL://u:p+asyncpg@h/db" = Address.withoutDriver url ↔ Address.Intact url) := by
  have haccepted : Address.Accepted named := by decide +kernel
  refine ⟨haccepted, ?_, ?_⟩
  · obtain ⟨-, hasked⟩ := opens_withoutDriver_iff []
    obtain ⟨id, hcalls, hopens⟩ := hasked "db" (.function 0) (by simp)
    obtain ⟨dsn, hseen, hintact⟩ := hopens [.connect "db" (.ready "own")] (by simp) (.ok named) named rfl haccepted
    obtain rfl : dsn = Address.withoutDriver named := hintact.mpr (by decide +kernel)
    exact ⟨id, hcalls, hseen⟩
  · obtain ⟨hopened, -⟩ := opens_withoutDriver_iff [.connect "db" (.function 0), .call "db"]
    obtain ⟨creation, url, hc, -, hurl, -, hintact⟩ :=
      hopened 0 (.ok named) "PostgreSQL://u:p+asyncpg@h/db" (by decide +kernel)
    exact ⟨creation, url, hc, hurl, hintact⟩

/-- An address that names no driver, with such a password. -/
def unnamed : String := "postgres://u:p+asyncpg@h/db"

/-- The password loses what reads like the driver. -/
theorem unnamed_is_not_intact :
    Address.Accepted unnamed ∧ Address.withoutDriver unnamed = unnamed ∧
      ((after [.connect "db" (.address 0 unnamed), .call "db"]).pools.begin 0 (.ok "")).2 =
        [.opened "postgres://u:p@h/db"] := by
  refine ⟨?_, ?_, ?_⟩
  · decide +kernel
  · decide +kernel
  · decide +kernel

end Pools
end ModelStore

import ModelStore.Datastore
import ModelStore.Proofs.Record.Join
import ModelStore.Query
import ModelStore.Sorting.Merge

/-!
# Which models their names reach

A model is registered under its name, but asked for, and stored, by the name in lower case. A name reaches the first
model that matches (`Registry.find?_of_first`), whether it is asked for or a relation is declared to it, and the table is
that of all that match. Nothing keeps names of one registry apart that differ in case only. So **every model is reached by
its own name, and no two share a table, exactly if no two names are the same in lower case** (`Datastore.reaches_iff`).
-/

namespace ModelStore

open Sorting (exists_of_bind_eq_ok)

variable {documents defaults : Value} {connectionName : String} {pool : Option Pool} {store : Datastore}

/-! ## What is registered -/

namespace Model

variable {model : Model} {key document : Value}

/-- A model's name is the text that it was given. -/
theorem name_of_ofDocument (h : ofDocument key document defaults = .ok model) (htext : model.inBytes = false) :
    key = .text model.name := by
  obtain ⟨shared, -, h⟩ := exists_of_bind_eq_ok h
  obtain ⟨entries, -, h⟩ := exists_of_bind_eq_ok h
  obtain ⟨own, -, h⟩ := exists_of_bind_eq_ok h
  cases key with
  | text name =>
    obtain ⟨inBytes, -, h⟩ := exists_of_bind_eq_ok h
    obtain ⟨attributes, -, h⟩ := exists_of_bind_eq_ok h
    split at h
    case h_1 hname _ =>
      obtain rfl := Except.ok.inj hname
      obtain rfl := Except.ok.inj h
      rfl
    case h_2 => cases h
    case h_3 => cases h
  | bytes bs =>
    obtain ⟨inBytes, hbytes, h⟩ := exists_of_bind_eq_ok h
    obtain rfl := Except.ok.inj hbytes
    obtain ⟨attributes, -, h⟩ := exists_of_bind_eq_ok h
    split at h
    case h_1 =>
      obtain rfl := Except.ok.inj h
      cases htext
    case h_2 => cases h
    case h_3 => cases h
  | _ => cases h

theorem table_of_text (htext : model.inBytes = false) : model.table = Text.lowercase model.name := by
  unfold table
  rw [htext]
  rfl

end Model

/-- What a model has to do with the entry of the documents that it was made from. -/
structure Model.MadeFrom (defaults : Value) (entry : Value × Value) (model : Model) : Prop where
  name : entry.1 = .text model.name
  made : Model.ofDocument entry.1 entry.2 defaults = .ok model
  table : model.table = Text.lowercase model.name

theorem Model.madeFrom_of_ofDocument {entries : Record} {models : List Model}
    (hmade : List.Forall₂ (fun entry model => Model.ofDocument entry.1 entry.2 defaults = .ok model) entries models)
    (htext : ∀ model ∈ models, model.inBytes = false) : List.Forall₂ (Model.MadeFrom defaults) entries models := by
  induction hmade with
  | nil => exact .nil
  | @cons entry model entries models hmodel _ ih =>
    have hhead : model.inBytes = false := htext model List.mem_cons_self
    refine .cons ⟨Model.name_of_ofDocument hmodel hhead, hmodel, Model.table_of_text hhead⟩ (ih ?_)
    exact fun other hmem => htext other (List.mem_cons_of_mem _ hmem)

theorem Model.exists_madeFrom {entries : Record} {models : List Model} {model : Model}
    (h : List.Forall₂ (Model.MadeFrom defaults) entries models) (hmem : model ∈ models) :
    ∃ entry ∈ entries, model.MadeFrom defaults entry := by
  induction h with
  | nil => cases hmem
  | @cons entry first entries models hmade _ ih =>
    rcases List.mem_cons.mp hmem with rfl | hlater
    · exact ⟨entry, List.mem_cons_self, hmade⟩
    · obtain ⟨other, hother, hmade⟩ := ih hlater
      exact ⟨other, List.mem_cons_of_mem _ hother, hmade⟩

/-- **A store holds a model for each document, under the name of that document.** -/
theorem Datastore.ofDocuments_ok
    (h : Datastore.ofDocuments documents defaults connectionName pool = .ok store) :
    ∃ entries, documents.mapping = .ok entries ∧
      List.Forall₂ (Model.MadeFrom defaults) entries store.registry.models := by
  obtain ⟨registry, hregistry, h⟩ := exists_of_bind_eq_ok h
  obtain ⟨entries, hentries, hregistry⟩ := exists_of_bind_eq_ok hregistry
  obtain ⟨models, hmodels, hregistry⟩ := exists_of_bind_eq_ok hregistry
  obtain rfl := Except.ok.inj hregistry
  split at h
  case isTrue => cases h
  case isFalse htexts =>
    obtain rfl := Except.ok.inj h
    have htext : ∀ model ∈ models, model.inBytes = false := by simpa using htexts
    exact ⟨entries, hentries, Model.madeFrom_of_ofDocument (mapM_eq_ok_iff.mp hmodels) htext⟩

/-! ## What is found -/

namespace Registry

variable {registry : Registry} {before after : List Model} {model : Model} {name : String}

/-- **A name finds the first model that matches it in lower case.** -/
theorem find?_of_first (hmodels : registry.models = before ++ model :: after)
    (hfirst : ∀ other ∈ before, Text.lowercase other.name ≠ Text.lowercase model.name)
    (hname : Text.lowercase name = Text.lowercase model.name) : registry.find? name = some model := by
  unfold find?
  rw [hmodels, List.find?_append, List.find?_eq_none.mpr, Option.none_or, List.find?_cons_of_pos]
  · simpa using hname.symm
  · intro other hmem
    simpa [hname] using hfirst other hmem

end Registry

namespace Datastore

variable {model : Model} {name : String}

/-- A name reaches a model: the store gives it for the name, and a population of a relation that is declared to the name
looks its records up in the table of that model. -/
structure Reaches (store : Datastore) (name : String) (model : Model) : Prop where
  given : store.model (.text name) = .ok model
  related : ∀ (q : Query) (owner : Model) (column : String) (a : Attribute), q.stage = .building →
    q.model = some owner → owner.attribute? (.text column) = some a → a.relation = some name →
    ∃ schema, q.modify (some store.registry) (.populate (.text column)) =
      .ok { q with population := some ⟨column, model, Sql.tableName (.text model.table) schema⟩ }

theorem reaches_of_find? (h : store.registry.find? name = some model) : store.Reaches name model := by
  have hfound : store.registry.find (.text name) = .ok model := by
    simp only [Registry.find, h]
  refine ⟨hfound, ?_⟩
  intro q owner column a hstage howner hdeclared hrelation
  obtain ⟨schema, hplan⟩ : ∃ schema, q.plan (some store.registry) (.text column) =
      .ok ⟨column, model, Sql.tableName (.text model.table) schema⟩ := by
    unfold Query.plan
    simp only [howner, hdeclared, Option.bind_some, hrelation, hfound]
    exact ⟨_, rfl⟩
  refine ⟨schema, ?_⟩
  unfold Query.modify Query.requireBuilding
  rw [if_pos hstage]
  show (do .ok { q with population := some (← q.plan (some store.registry) (.text column)) } : Except Fault Query) = _
  rw [hplan]
  rfl

theorem reaches_of_first {before after : List Model} (hmodels : store.registry.models = before ++ model :: after)
    (hothers : ∀ other ∈ before, Text.lowercase other.name ≠ Text.lowercase model.name)
    (hname : Text.lowercase name = Text.lowercase model.name) : store.Reaches name model :=
  reaches_of_find? (Registry.find?_of_first hmodels hothers hname)

/-- Tables are apart as the names are in lower case. -/
theorem pairwise_table_iff {entries : Record} {models : List Model}
    (hmade : List.Forall₂ (Model.MadeFrom defaults) entries models) :
    models.Pairwise (fun model other => model.table ≠ other.table) ↔
      models.Pairwise fun model other => Text.lowercase model.name ≠ Text.lowercase other.name := by
  refine List.Pairwise.iff_of_mem ?_
  intro model other hmodel hother
  obtain ⟨first, -, hfirst⟩ := Model.exists_madeFrom hmade hmodel
  obtain ⟨second, -, hsecond⟩ := Model.exists_madeFrom hmade hother
  rw [hfirst.table, hsecond.table]

/-- **Names reach models in lower case.** A store holds a model for each document, under its name. Whatever name is the
same in lower case reaches it, unless one before it is called the same. So every model is reached by its name, however it
is written, and has a table of its own, exactly if no two names are the same in lower case. -/
theorem reaches_iff (h : Datastore.ofDocuments documents defaults connectionName pool = .ok store) :
    (∃ entries, documents.mapping = .ok entries ∧
      List.Forall₂ (Model.MadeFrom defaults) entries store.registry.models) ∧
    (∀ before model after, store.registry.models = before ++ model :: after →
      (∀ other ∈ before, Text.lowercase other.name ≠ Text.lowercase model.name) →
      ∀ name, Text.lowercase name = Text.lowercase model.name → store.Reaches name model) ∧
    ((∀ model ∈ store.registry.models, ∀ name, Text.lowercase name = Text.lowercase model.name →
        store.Reaches name model) ∧
      store.registry.models.Pairwise (fun model other => model.table ≠ other.table) ↔
      store.registry.models.Pairwise fun model other => Text.lowercase model.name ≠ Text.lowercase other.name) := by
  obtain ⟨entries, hentries, hmade⟩ := ofDocuments_ok h
  refine ⟨⟨entries, hentries, hmade⟩, ?_, ?_⟩
  · intro before model after hmodels hothers name hname
    exact reaches_of_first hmodels hothers hname
  · rw [pairwise_table_iff hmade]
    refine and_iff_right_of_imp ?_
    intro hnames model hmem name hname
    obtain ⟨before, after, hmodels⟩ := List.append_of_mem hmem
    rw [hmodels] at hnames
    have hothers : ∀ other ∈ before, Text.lowercase other.name ≠ Text.lowercase model.name := by
      intro other hother
      exact (List.pairwise_append.mp hnames).2.2 other hother model List.mem_cons_self
    exact reaches_of_first hmodels hothers hname

/-- A document with one attribute. -/
def document (column : String) (settings : Record) : Value :=
  .map [(.text "attributes", .map [(.text column, .map settings)])]

/-- Users, and posts that belong to them. -/
def blog : Value :=
  .map [(.text "User", document "id" [(.text "type", .text "number")]),
    (.text "Post", document "author" [(.text "model", .text "USER")])]

def users : Model := ⟨"User", [("id", ⟨.number, false, none, false, false, false, none⟩)], false⟩

def posts : Model := ⟨"Post", [("author", ⟨.ref, false, none, false, false, false, some "USER"⟩)], false⟩

/-- A query for posts that nothing has modified. -/
def allPosts : Query := .plain (some posts) none [] .rows .rows

theorem reaches_of_blog :
    ofDocuments blog .null defaultName none = .ok ⟨⟨[users, posts]⟩, defaultName, none⟩ ∧
      (⟨⟨[users, posts]⟩, defaultName, none⟩ : Datastore).model (.text "uSER") = .ok users ∧
      (⟨⟨[users, posts]⟩, defaultName, none⟩ : Datastore).model (.text "POST") = .ok posts ∧
      (∃ schema, allPosts.modify (some ⟨[users, posts]⟩) (.populate (.text "author")) =
        .ok { allPosts with population := some ⟨"author", users, Sql.tableName (.text users.table) schema⟩ }) ∧
      users.table ≠ posts.table := by
  have hstore : ofDocuments blog .null defaultName none = .ok ⟨⟨[users, posts]⟩, defaultName, none⟩ := rfl
  obtain ⟨-, hfirst, hiff⟩ := reaches_iff hstore
  obtain ⟨hreached, htables⟩ := hiff.mpr (by decide +kernel)
  have husers := hreached users (by simp)
  have hposts := hfirst [users] posts [] rfl (by decide +kernel) "POST" (by decide +kernel)
  refine ⟨hstore, (husers "uSER" (by decide +kernel)).given, hposts.given, ?_, ?_⟩
  · exact (husers "USER" (by decide +kernel)).related allPosts posts "author" _ rfl rfl rfl rfl
  · simpa using htables

/-- Two models whose names are the same in lower case. -/
def ambiguous : Value :=
  .map [(.text "User", document "id" [(.text "type", .text "number")]),
    (.text "user", document "name" [(.text "type", .text "string")])]

def shadowed : Model := ⟨"user", [("name", ⟨.string, false, none, false, false, false, none⟩)], false⟩

/-- **The second model is not reached by its own name**, and both have one table. -/
theorem shadowed_is_not_reached :
    ofDocuments ambiguous .null defaultName none = .ok ⟨⟨[users, shadowed]⟩, defaultName, none⟩ ∧
      (⟨⟨[users, shadowed]⟩, defaultName, none⟩ : Datastore).model (.text shadowed.name) = .ok users ∧
      users.name ≠ shadowed.name ∧ users.table = shadowed.table := by
  have hsame : Text.lowercase shadowed.name = Text.lowercase users.name := by decide +kernel
  have hmodels : (⟨[users, shadowed]⟩ : Registry).models = [] ++ users :: [shadowed] := rfl
  have hreached : (⟨⟨[users, shadowed]⟩, defaultName, none⟩ : Datastore).Reaches shadowed.name users :=
    reaches_of_first hmodels (by simp) hsame
  refine ⟨rfl, hreached.given, ?_, ?_⟩
  · decide
  · exact hsame.symm

end Datastore

end ModelStore

import ModelStore.Proofs.Write.Counting

/-!
# The form in which a value is bound

A value is bound as it is, or as text if its column is JSON (`Model.Binds`); null and the pending time are never made
a text of. A value of a JSON column that has no text has no form to be bound in. That, like a row without one of the
columns, is a misuse and no refusal (`Misuses`): **what is refused is refused for its shape, and never for a value.**
-/

namespace ModelStore

/-! ## Forms -/

namespace Model

/-- Null and the pending time are bound as they are, whatever the column, and so is what is not JSON. -/
def Keeps (model : Model) (column v : Value) : Prop :=
  v = .null ∨ v = .pending ∨ ∀ a, model.attribute? column = some a → a.type ≠ .json

/-- **The form in which a column's value is bound**: JSON is bound as text, all else as it is. -/
inductive Binds (model : Model) (column : Value) : Value → Value → Prop
  | kept {v : Value} (h : model.Keeps column v) : Binds model column v v
  | json {v : Value} {s : String} (h : ¬ model.Keeps column v) (hs : v.json = .ok s) :
      Binds model column v (.text s)

variable {model : Model} {column v w : Value}

theorem serialize_of_keeps (h : model.Keeps column v) : model.serialize column v = .ok v := by
  unfold serialize
  split
  · rfl
  · rcases h with rfl | rfl | h
    · split
      · rfl
      · simp [Attribute.serialize, Value.isNull]
    · exact absurd rfl ‹_›
    · split
      · rfl
      case h_2 a ha => simp [Attribute.serialize, h a ha]

theorem serialize_of_not_keeps (h : ¬ model.Keeps column v) :
    model.serialize column v = v.json.map .text := by
  obtain ⟨hnull, hpending, hjson⟩ : v ≠ .null ∧ v ≠ .pending ∧
      ∃ a, model.attribute? column = some a ∧ a.type = .json := by
    simpa [Keeps] using h
  obtain ⟨a, ha, htype⟩ := hjson
  have hnot : v.isPending = false := by cases v <;> simp_all [Value.isPending]
  have hnot' : v.isNull = false := by cases v <;> simp_all [Value.isNull]
  simp [serialize, hnot, ha, Attribute.serialize, htype, hnot']

theorem serialize_eq_ok_iff : model.serialize column v = .ok w ↔ model.Binds column v w := by
  by_cases hkeeps : model.Keeps column v
  · rw [serialize_of_keeps hkeeps, Except.ok.injEq]
    constructor
    · rintro rfl
      exact .kept hkeeps
    · rintro (_ | ⟨hnot, _⟩)
      · rfl
      · exact absurd hkeeps hnot
  · rw [serialize_of_not_keeps hkeeps]
    constructor
    · intro h
      cases hs : v.json with
      | error fault =>
        rw [hs] at h
        cases h
      | ok s =>
        rw [hs] at h
        obtain rfl := Except.ok.inj h
        exact .json hkeeps hs
    · rintro (hkept | ⟨_, hs⟩)
      · exact absurd hkept hkeeps
      · rw [hs]
        rfl

end Model

/-! ## Values without a form -/

/-- Something that may fail, but only because a value is put to a use that it does not allow. -/
def Misuses {α : Type} (outcome : Except Fault α) : Prop :=
  ∀ fault, outcome = .error fault → ∃ how, fault = .misused how

namespace Misuses

variable {α β : Type}

theorem ok (x : α) : Misuses (.ok x) := by
  intro fault h
  cases h

theorem misused (how : Misuse) : Misuses (.error (.misused how) : Except Fault α) := by
  intro fault h
  exact ⟨how, (Except.error.inj h).symm⟩

theorem bind {outcome : Except Fault α} {next : α → Except Fault β} (h : Misuses outcome)
    (hnext : ∀ x, Misuses (next x)) : Misuses (outcome >>= next) := by
  cases outcome with
  | error fault =>
    obtain ⟨how, rfl⟩ := h fault rfl
    exact misused how
  | ok x => exact hnext x

end Misuses

namespace Value

theorem misuses_jsonInt (n : Int) : Misuses (jsonInt n) := by
  unfold jsonInt
  split
  case isTrue => exact .misused .content
  case isFalse => exact .ok _

mutual

/-- What has no JSON text is misused, and not refused. -/
theorem misuses_json (v : Value) : Misuses v.json := by
  match v with
  | list vs =>
    rw [json]
    exact (misuses_jsonItems vs).bind fun _ => .ok _
  | tuple vs =>
    rw [json]
    exact (misuses_jsonItems vs).bind fun _ => .ok _
  | map es =>
    rw [json]
    exact (misuses_jsonEntries es).bind fun _ => .ok _
  | int n =>
    rw [json]
    exact misuses_jsonInt n
  | null | bool _ | float _ | text _ =>
    rw [json]
    exact .ok _
  | decimal _ | bytes _ | moment _ | pending => exact .misused .kind

theorem misuses_jsonItems (vs : List Value) : Misuses (jsonItems vs) := by
  match vs with
  | [] => exact .ok _
  | v :: rest =>
    rw [jsonItems]
    exact (misuses_json v).bind fun _ => (misuses_jsonItems rest).bind fun _ => .ok _

theorem misuses_jsonEntries (es : List (Value × Value)) : Misuses (jsonEntries es) := by
  match es with
  | [] => exact .ok _
  | (key, v) :: rest =>
    have hkey : Misuses key.jsonKey := by
      unfold jsonKey
      split
      case h_5 n => exact misuses_jsonInt n
      case h_6 => exact .misused .kind
      all_goals exact .ok _
    rw [jsonEntries]
    exact hkey.bind fun _ => (misuses_json v).bind fun _ => (misuses_jsonEntries rest).bind fun _ => .ok _

end

theorem misuses_items (v : Value) : Misuses v.items := by
  unfold items
  split
  case h_6 => exact .misused .kind
  all_goals exact .ok _

theorem misuses_at? (v key : Value) : Misuses (v.at? key) := by
  have hitem : ∀ vs position, Misuses (itemAt vs position) := by
    intro vs position
    unfold itemAt
    dsimp only
    generalize (if position < 0 then position + (vs.length : Int) else position) = index
    split
    · exact .misused .index
    · split
      · exact .ok _
      · exact .misused .index
  unfold at?
  split
  case h_1 =>
    split
    · split
      · exact .ok _
      · exact .misused .key
    · exact .misused .kind
  case h_6 => exact .misused .kind
  all_goals
    split
    · exact (misuses_items _).bind fun _ => hitem _ _
    · exact .misused .kind

end Value

theorem Model.misuses_serialize (model : Model) (column v : Value) : Misuses (model.serialize column v) := by
  by_cases hkeeps : model.Keeps column v
  · rw [serialize_of_keeps hkeeps]
    exact .ok v
  · rw [serialize_of_not_keeps hkeeps]
    intro fault h
    cases hjson : v.json with
    | error fault' =>
      rw [hjson] at h
      obtain rfl := Except.error.inj h
      exact v.misuses_json fault' hjson
    | ok s =>
      rw [hjson] at h
      cases h

/-- What has a cell without a value cannot be built. -/
theorem Bound.misused_of_mem {α : Type} {cells : List (Except Fault Value)} (h : ∀ cell ∈ cells, Misuses cell)
    {cell : Except Fault Value} (hmem : cell ∈ cells) (hnone : ∀ w, cell ≠ .ok w) (built : α) :
    ∃ how, (Bound.ofCells cells built).outcome = .error (.misused how) := by
  cases houtcome : (Bound.ofCells cells built).outcome with
  | error fault =>
    obtain ⟨how, rfl⟩ := h _ (Bound.mem_of_ofCells_error houtcome) fault rfl
    exact ⟨how, rfl⟩
  | ok result =>
    rw [Bound.cells_of_ofCells_ok houtcome] at hmem
    obtain ⟨w, -, rfl⟩ := List.mem_map.mp hmem
    exact absurd rfl (hnone w)

namespace Insert

theorem misuses_of_mem_allCells {model : Model} {columns rows : List Value} {cell : Except Fault Value}
    (h : cell ∈ allCells model columns rows) : Misuses cell := by
  have hcell : ∀ {row : Value}, cell ∈ cells model columns row → Misuses cell := by
    intro row hmem
    obtain ⟨column, -, rfl⟩ := List.mem_map.mp hmem
    exact (row.misuses_at? column).bind fun v => model.misuses_serialize column v
  cases rows with
  | nil => cases h
  | cons first later =>
    rcases List.mem_append.mp h with h | h
    · unfold firstCells at h
      split at h
      case h_1 es =>
        obtain ⟨entry, -, rfl⟩ := List.mem_map.mp h
        exact model.misuses_serialize entry.1 entry.2
      case h_2 => exact hcell h
    · obtain ⟨row, -, hmem⟩ := List.mem_flatMap.mp h
      exact hcell hmem

end Insert

end ModelStore

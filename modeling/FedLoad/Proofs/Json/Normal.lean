import FedLoad.Proofs.Json.Equality
import FedLoad.Proofs.Keyed
/-!
# Normal forms

Bringing a value into normal form sorts the fields of its records and drops the earlier ones of a
key. So it leaves a value alone that is in normal form, and keeps a value equal to itself that was
equal to itself. Both are by induction on the value, with what is put together under ascending keys
as the only step that is not item by item.

Main statements: `Json.normalize_normalize` and `Json.Equal.normalize`.
-/
namespace FedLoad.Json

/-! ## Values that are equal to themselves -/

theorem equal_self_list_iff {items : List Json} :
    Equal (.list items) (.list items) ↔ ∀ j ∈ items, j.Equal j := by
  rw [← List.forall₂_same]
  exact ⟨fun | .list h => h, .list⟩

theorem equal_self_record_iff {fields : List (String × Json)} :
    Equal (.record fields) (.record fields) ↔ ∀ p ∈ fields, p.2.Equal p.2 := by
  rw [← List.forall_mem_map (f := Prod.snd) (P := fun j : Json => j.Equal j), ← List.forall₂_same]
  exact ⟨fun | .record _ h => h, .record rfl⟩

/-! ## Fields in normal form -/

theorem normalizeList_of_normal {items : List Json} (h : ∀ j ∈ items, j.normalize = j) :
    normalizeList items = items := by
  induction items with
  | nil => rfl
  | cons j rest ih =>
    obtain ⟨hj, hrest⟩ := List.forall_mem_cons.1 h
    rw [normalizeList, hj, ih hrest]

theorem normalizeFields_of_normal {fields : List (String × Json)}
    (h : ∀ p ∈ fields, p.2.normalize = p.2) : normalizeFields fields = fields := by
  induction fields with
  | nil => rfl
  | cons p rest ih =>
    obtain ⟨hp, hrest⟩ := List.forall_mem_cons.1 h
    rw [normalizeFields, hp, ih hrest]

mutual

/-- A normal form is its own normal form. -/
theorem normalize_normalize (j : Json) : j.normalize.normalize = j.normalize := by
  cases j with
  | null | bool | int | float | text => rfl
  | list items =>
    rw [normalize, normalize, normalizeList_of_normal (normal_of_mem_normalizeList items)]
  | record fields =>
    have hnormal := Keyed.forall_ofList (fun j : Json => j.normalize = j)
      (normal_of_mem_normalizeFields fields)
    rw [normalize, normalize, normalizeFields_of_normal hnormal,
      Keyed.ofList_of_ascending (Keyed.ascending_ofList _)]

theorem normal_of_mem_normalizeList (items : List Json) :
    ∀ j ∈ normalizeList items, j.normalize = j := by
  cases items with
  | nil => exact List.forall_mem_nil _
  | cons j rest =>
    exact List.forall_mem_cons.2 ⟨normalize_normalize j, normal_of_mem_normalizeList rest⟩

theorem normal_of_mem_normalizeFields (fields : List (String × Json)) :
    ∀ p ∈ normalizeFields fields, p.2.normalize = p.2 := by
  cases fields with
  | nil => exact List.forall_mem_nil _
  | cons p rest =>
    exact List.forall_mem_cons.2 ⟨normalize_normalize p.2, normal_of_mem_normalizeFields rest⟩

end

/-- The values of the fields of a normal form are normal forms. -/
theorem normal_of_mem_fields {fields : List (String × Json)}
    (h : (Json.record fields).normalize = .record fields) : ∀ p ∈ fields, p.2.normalize = p.2 := by
  rw [normalize, record.injEq] at h
  rw [← h]
  exact Keyed.forall_ofList (fun j : Json => j.normalize = j) (normal_of_mem_normalizeFields fields)

theorem ascending_of_normal {fields : List (String × Json)}
    (h : (Json.record fields).normalize = .record fields) : Keyed.Ascending fields := by
  rw [normalize, record.injEq] at h
  rw [← h]
  exact Keyed.ascending_ofList _

/-! ## Equality and normal forms -/

mutual

theorem equal_self_normalize (j : Json) (h : j.Equal j) : j.normalize.Equal j.normalize := by
  cases j with
  | null | bool | int | float | text => exact h
  | list items =>
    exact equal_self_list_iff.2 (equal_self_normalizeList items (equal_self_list_iff.1 h))
  | record fields =>
    exact equal_self_record_iff.2 (Keyed.forall_ofList (fun j : Json => j.Equal j)
      (equal_self_normalizeFields fields (equal_self_record_iff.1 h)))

theorem equal_self_normalizeList (items : List Json) (h : ∀ j ∈ items, j.Equal j) :
    ∀ j ∈ normalizeList items, j.Equal j := by
  cases items with
  | nil => exact List.forall_mem_nil _
  | cons j rest =>
    obtain ⟨hj, hrest⟩ := List.forall_mem_cons.1 h
    exact List.forall_mem_cons.2
      ⟨equal_self_normalize j hj, equal_self_normalizeList rest hrest⟩

theorem equal_self_normalizeFields (fields : List (String × Json))
    (h : ∀ p ∈ fields, p.2.Equal p.2) : ∀ p ∈ normalizeFields fields, p.2.Equal p.2 := by
  cases fields with
  | nil => exact List.forall_mem_nil _
  | cons p rest =>
    obtain ⟨hp, hrest⟩ := List.forall_mem_cons.1 h
    exact List.forall_mem_cons.2
      ⟨equal_self_normalize p.2 hp, equal_self_normalizeFields rest hrest⟩

end

end FedLoad.Json

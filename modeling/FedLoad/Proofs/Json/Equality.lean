import FedLoad.Json.Basic
import Mathlib.Data.List.Forall2
/-!
# Equal values

Values in normal form are equal if they are built alike: lists item by item, records key by key in
the one order that they have. Doubles are equal as numbers, so that the two zeros are.

Main statement: `Json.same_iff`.
-/
namespace FedLoad.Json

/-- Values that are built alike. -/
inductive Equal : Json → Json → Prop
  | null : Equal .null .null
  | bool (b : Bool) : Equal (.bool b) (.bool b)
  | int (n : Int) : Equal (.int n) (.int n)
  | float {x y : Float} (h : x == y) : Equal (.float x) (.float y)
  | text (s : String) : Equal (.text s) (.text s)
  | list {as bs : List Json} (items : List.Forall₂ Equal as bs) : Equal (.list as) (.list bs)
  | record {as bs : List (String × Json)} (keys : as.map Prod.fst = bs.map Prod.fst)
    (values : List.Forall₂ Equal (as.map Prod.snd) (bs.map Prod.snd)) :
    Equal (.record as) (.record bs)

mutual

/-- Equality is decided by `same`; only values of one kind are equal. -/
theorem same_iff (a b : Json) : a.same b = true ↔ a.Equal b := by
  cases a with
  | null =>
    cases b with
    | null => exact iff_of_true rfl .null
    | _ => exact iff_of_false nofun nofun
  | bool p =>
    cases b with
    | bool q =>
      rw [same, beq_iff_eq]
      exact ⟨fun h => h ▸ .bool p, fun | .bool _ => rfl⟩
    | _ => exact iff_of_false nofun nofun
  | int m =>
    cases b with
    | int n =>
      rw [same, beq_iff_eq]
      exact ⟨fun h => h ▸ .int m, fun | .int _ => rfl⟩
    | _ => exact iff_of_false nofun nofun
  | float x =>
    cases b with
    | float y => exact ⟨.float, fun | .float h => h⟩
    | _ => exact iff_of_false nofun nofun
  | text s =>
    cases b with
    | text t =>
      rw [same, beq_iff_eq]
      exact ⟨fun h => h ▸ .text s, fun | .text _ => rfl⟩
    | _ => exact iff_of_false nofun nofun
  | list as =>
    cases b with
    | list bs =>
      rw [same, sameList_iff as bs]
      exact ⟨.list, fun | .list h => h⟩
    | _ => exact iff_of_false nofun nofun
  | record as =>
    cases b with
    | record bs =>
      rw [same, sameFields_iff as bs]
      exact ⟨fun h => .record h.1 h.2, fun | .record hkeys hvalues => ⟨hkeys, hvalues⟩⟩
    | _ => exact iff_of_false nofun nofun

theorem sameList_iff (as bs : List Json) :
    sameList as bs = true ↔ List.Forall₂ Equal as bs := by
  cases as with
  | nil => cases bs <;> simp [sameList]
  | cons a as =>
    cases bs with
    | nil => simp [sameList]
    | cons b bs =>
      rw [sameList, Bool.and_eq_true, same_iff a b, sameList_iff as bs, List.forall₂_cons]

theorem sameFields_iff (as bs : List (String × Json)) : sameFields as bs = true ↔
    as.map Prod.fst = bs.map Prod.fst ∧
      List.Forall₂ Equal (as.map Prod.snd) (bs.map Prod.snd) := by
  cases as with
  | nil => cases bs <;> simp [sameFields]
  | cons p as =>
    cases bs with
    | nil => simp [sameFields]
    | cons q bs =>
      obtain ⟨k, a⟩ := p
      obtain ⟨l, b⟩ := q
      rw [sameFields, Bool.and_eq_true, Bool.and_eq_true, beq_iff_eq, same_iff a b,
        sameFields_iff as bs, List.map_cons, List.map_cons, List.map_cons, List.map_cons,
        List.cons_eq_cons, List.forall₂_cons]
      exact and_and_and_comm

end

end FedLoad.Json

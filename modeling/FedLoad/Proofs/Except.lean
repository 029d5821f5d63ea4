/-!
# Calculations that may fail

A chain of such calculations has a result just if every one of them has, and a property of the
result can be tested without saying what the result is.
-/
namespace FedLoad

theorem bind_eq_ok {ε α β : Type} {x : Except ε α} {f : α → Except ε β} {b : β} :
    x >>= f = .ok b ↔ ∃ a, x = .ok a ∧ f a = .ok b := by
  cases x with
  | error e => exact ⟨nofun, nofun⟩
  | ok a => exact ⟨fun h => ⟨a, rfl, h⟩, fun ⟨_, ha, h⟩ => Except.ok.inj ha ▸ h⟩

theorem any_toOption {ε α : Type} {x : Except ε α} {passes : α → Bool} :
    x.toOption.any passes = true ↔ ∃ a, x = .ok a ∧ passes a := by
  cases x <;> simp [Except.toOption]

end FedLoad

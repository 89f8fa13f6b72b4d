/-! # Computations that may fail

How a computation that is put together from parts comes to its value: every part has come to one
before. -/

namespace StrongAuth

variable {α β ε ζ : Type}

theorem bind_eq_ok_iff {first : Except ε α} {second : α → Except ε β} {value : β} :
    (first >>= second) = .ok value ↔ ∃ middle, first = .ok middle ∧ second middle = .ok value := by
  cases first with
  | error fault => exact iff_of_false nofun (by simp)
  | ok middle => exact ⟨fun same => ⟨middle, rfl, same⟩, by rintro ⟨_, ⟨⟩, same⟩; exact same⟩

theorem map_eq_ok_iff {result : Except ε α} {wrap : α → β} {value : β} :
    result.map wrap = .ok value ↔ ∃ middle, result = .ok middle ∧ wrap middle = value := by
  cases result with
  | error fault => exact iff_of_false nofun (by simp)
  | ok middle => simp [Except.map]

theorem mapError_eq_ok_iff {result : Except ε α} {wrap : ε → ζ} {value : α} :
    result.mapError wrap = .ok value ↔ result = .ok value := by
  cases result with
  | error fault => exact iff_of_false nofun nofun
  | ok middle => exact ⟨fun same => by cases same; rfl, fun same => by cases same; rfl⟩

end StrongAuth

import FormBuilder.Fault
/-! Readings that found no fault: what each of their parts came to. -/
namespace FormBuilder

theorem passed {x : Except ε α} (some : x.toOption.isSome = true) : ∃ a, x = .ok a := by
  cases x with
  | ok a => exact ⟨a,rfl⟩
  | error e => contradiction

namespace Checked

theorem partOk {f : Checked (α → β)} {a : Checked α} {b : β} :
    part f a = .ok b ↔ ∃ g x, f = .ok g ∧ a = .ok x ∧ g x = b := by
  cases f <;> cases a <;> simp [part,both]

theorem mapOk {f : α → β} {a : Except ε α} {b : β} : Except.map f a = .ok b ↔ ∃ x, a = .ok x ∧ f x = b := by
  cases a <;> simp [Except.map]

theorem underOk {step : Step} {a : Checked α} {b : α} : under step a = .ok b ↔ a = .ok b := by
  cases a <;> simp [under]

theorem bothOk {f : α → β → γ} {a : Checked α} {b : Checked β} {c : γ} :
    both f a b = .ok c ↔ ∃ x y, a = .ok x ∧ b = .ok y ∧ f x y = c := by
  cases a <;> cases b <;> simp [both]

end Checked
end FormBuilder

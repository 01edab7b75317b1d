/-! # Sequences of steps that can fail

A sequence of two steps succeeds exactly when the first one gives a value and the second one
succeeds with it.
-/

namespace Waterfall

variable {ε α β : Type}

theorem ok_bind (value : α) (next : α → Except ε β) :
    (Except.ok value >>= next) = next value := rfl

theorem error_bind (cause : ε) (next : α → Except ε β) :
    ((Except.error cause : Except ε α) >>= next) = .error cause := rfl

theorem bind_eq_ok {step : Except ε α} {next : α → Except ε β} {result : β} :
    (step >>= next) = .ok result ↔ ∃ value, step = .ok value ∧ next value = .ok result := by
  constructor
  · intro succeeds
    cases step with
    | error cause => cases succeeds
    | ok value => exact ⟨value, rfl, succeeds⟩
  · rintro ⟨value, rfl, succeeds⟩
    exact succeeds

end Waterfall

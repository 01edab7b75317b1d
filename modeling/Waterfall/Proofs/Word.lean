import Waterfall.Word

/-! # Words that fit

Counts and vertex numbers that fit their words are calculated as plain numbers.
-/

namespace Waterfall.Word

variable {left right value : Nat}

theorem add_of_lt (fits : left + right < countLimit) : add left right = .ok (left + right) :=
  if_pos fits

theorem mul_of_lt (fits : left * right < countLimit) : mul left right = .ok (left * right) :=
  if_pos fits

theorem truncate_of_lt (fits : value < indexLimit) : truncate value = value :=
  Nat.mod_eq_of_lt fits

theorem addIndex_of_lt (fits : left + right < indexLimit) :
    addIndex left right = .ok (left + right) := if_pos fits

/-- What needs storage first is had exactly if there is storage for it. -/
theorem reserve_then {α : Type} (items size : Nat) (value : α) :
    (do reserve items size; return value) =
      if items * size < storageLimit then .ok value else .error .overflow := by
  rw [reserve]
  split <;> rfl

end Waterfall.Word

/-! # Cutting a list into parts

Long blocks of samples are worked off in parts of a bounded size. The parts, joined in order, are
the list again (`flatten_chunks`), and each of them has at least one and at most `size` elements.
-/

namespace Waterfall

variable {α : Type}

/-- The consecutive parts of `size` elements of a list, the last of which may be shorter. There are
no parts of no elements. -/
def chunks (size : Nat) (list : List α) : List (List α) :=
  if size = 0 ∨ list = [] then [] else list.take size :: chunks size (list.drop size)
termination_by list.length
decreasing_by
  have : 0 < list.length := List.length_pos_iff.mpr (by grind)
  simp only [List.length_drop]
  omega

/-- Joining the parts gives the list back. -/
theorem flatten_chunks {size : Nat} (size_pos : 0 < size) (list : List α) :
    (chunks size list).flatten = list := by
  fun_induction chunks size list with
  | case1 list stop => rcases stop with rfl | rfl <;> simp_all
  | case2 list _ ih => rw [List.flatten_cons, ih, List.take_append_drop]

/-- No part is empty. -/
theorem nil_notMem_chunks (size : Nat) (list : List α) : [] ∉ chunks size list := by
  fun_induction chunks size list with
  | case1 => simp
  | case2 list goes ih =>
    rw [List.mem_cons, not_or]
    exact ⟨fun empty => goes (List.take_eq_nil_iff.mp empty.symm), ih⟩

/-- No part has more than `size` elements. -/
theorem length_le_of_mem_chunks {size : Nat} {list part : List α} (mem : part ∈ chunks size list) :
    part.length ≤ size := by
  fun_induction chunks size list with
  | case1 => simp at mem
  | case2 list _ ih =>
    rcases List.mem_cons.mp mem with rfl | mem
    · rw [List.length_take]
      omega
    · exact ih mem

end Waterfall

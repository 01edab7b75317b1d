import Waterfall.Capture.Callback

/-! # Averages of cut blocks

A block is averaged frame by frame, so a block that is cut between two frames has the averages of
its parts, in order. The callback cuts at a multiple of the frame's size. What follows the last
whole frame has no average.
-/

namespace Waterfall.Capture

variable {channels : Nat} {first rest block : List Float32}

/-- The average of every whole frame of a block, in order. -/
def frameAverages (channels : Nat) (block : List Float32) : List Float32 :=
  (List.range (block.length / channels)).map fun index =>
    average channels ((block.drop (index * channels)).take channels)

theorem averagesOf_eq (channels frames : Nat) (block : List Float32) :
    averagesOf channels frames block = (List.range frames).map fun index =>
      average channels ((block.drop (index * channels)).take channels) := by
  induction frames generalizing block with
  | zero => rfl
  | succ frames ih =>
    rw [averagesOf, ih, List.range_succ_eq_map, List.map_cons, List.map_map, Nat.zero_mul,
      List.drop_zero]
    simp only [Function.comp_def, List.drop_drop, Nat.succ_mul, Nat.add_comm]

theorem averages_eq (channels : Nat) (block : List Float32) :
    averages channels block = frameAverages channels block := averagesOf_eq _ _ _

theorem length_averages (channels : Nat) (block : List Float32) :
    (averages channels block).length = block.length / channels := by
  rw [averages_eq, frameAverages, List.length_map, List.length_range]

theorem averagesOf_append {frames : Nat} (whole : first.length = frames * channels)
    (more : Nat) (rest : List Float32) :
    averagesOf channels (frames + more) (first ++ rest) =
      averagesOf channels frames first ++ averagesOf channels more rest := by
  induction frames generalizing first with
  | zero =>
    have empty : first = [] := List.length_eq_zero_iff.mp (by omega)
    rw [empty, Nat.zero_add, averagesOf]
    rfl
  | succ frames ih =>
    have frame_le : channels ≤ first.length := by
      rw [whole, Nat.succ_mul]
      omega
    have later : (first.drop channels).length = frames * channels := by
      rw [List.length_drop, whole, Nat.succ_mul, Nat.add_sub_cancel]
    rw [Nat.add_right_comm, averagesOf, averagesOf, List.take_append_of_le_length frame_le,
      List.drop_append_of_le_length frame_le, ih later, List.cons_append]

/-- A block that is cut between two frames has the averages of both parts. -/
theorem averages_append (channels_pos : 0 < channels) (whole : channels ∣ first.length)
    (rest : List Float32) :
    averages channels (first ++ rest) = averages channels first ++ averages channels rest := by
  have frames : (first ++ rest).length / channels =
      first.length / channels + rest.length / channels := by
    obtain ⟨count, length⟩ := whole
    rw [List.length_append, length, Nat.mul_add_div channels_pos,
      Nat.mul_div_cancel_left count channels_pos]
  rw [averages, averages, averages, frames]
  exact averagesOf_append (Nat.div_mul_cancel whole).symm _ _

/-- An incomplete frame has no average. -/
theorem averages_of_lt (short : rest.length < channels) : averages channels rest = [] := by
  rw [averages, Nat.div_eq_of_lt short, averagesOf]

/-- Parts of a whole number of frames have the averages of the block that they are cut from. -/
theorem flatMap_averages_chunks (channels_pos : 0 < channels) {size : Nat} (size_pos : 0 < size)
    (whole : channels ∣ size) (block : List Float32) :
    (chunks size block).flatMap (averages channels) = averages channels block := by
  fun_induction chunks size block with
  | case1 block stop =>
    have empty : block = [] := stop.resolve_left (Nat.ne_of_gt size_pos)
    subst empty
    exact (averages_of_lt channels_pos).symm
  | case2 block goes ih =>
    rw [List.flatMap_cons, ih]
    rcases Nat.lt_or_ge block.length size with last | more
    · have none : averages channels [] = [] := averages_of_lt channels_pos
      rw [List.take_of_length_le (Nat.le_of_lt last), List.drop_eq_nil_of_le (Nat.le_of_lt last),
        none, List.append_nil]
    · have cut : channels ∣ (block.take size).length := by
        rwa [List.length_take, Nat.min_eq_left more]
      rw [← averages_append channels_pos cut, List.take_append_drop]

/-- A buffer with room for just the whole frames of a block is overwritten by their averages. -/
theorem downmix_of_length (channels_pos : 0 < channels) {buffer : List Float32}
    (room : buffer.length = block.length / channels) :
    downmix channels block buffer = .ok (averages channels block) := by
  have length : (averages channels block).length = buffer.length := by
    rw [length_averages, room]
  rw [downmix, if_neg (Nat.ne_of_gt channels_pos), List.take_of_length_le (Nat.le_of_eq length)]
  dsimp only
  rw [List.drop_eq_nil_of_le (Nat.le_of_eq length.symm), List.append_nil]

end Waterfall.Capture

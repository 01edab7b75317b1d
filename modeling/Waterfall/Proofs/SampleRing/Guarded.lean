import Waterfall.Proofs.Outcome
import Waterfall.Proofs.SampleRing.Feed
import Waterfall.Proofs.Word

/-! # The ring with every access guarded

The ring's operations read and write runs of lists at positions they compute. Here every such access
checks its bounds, a copy needs a run of its own length, every difference and sum is a 64-bit count
and a remainder needs a divisor; the count of fresh samples saturates. Where a check fails the
operation is a breach. On a ring whose cells could be allocated the guarded operations return what
the plain ones compute, so no check ever fails; the guarded feed needs no more passes through its
loop than the block has samples, and one.
-/

namespace Waterfall

variable {α : Type}

namespace Word

/-- The difference of two counts, provided that it is not negative. -/
def sub (left right : Nat) : Except Breach Nat :=
  if right ≤ left then .ok (left - right) else .error .overflow

/-- The remainder of a division, provided that there is a divisor. -/
def remainder (value divisor : Nat) : Except Breach Nat :=
  if divisor = 0 then .error .zeroDivisor else .ok (value % divisor)

/-- The count, or the largest one if it does not fit. -/
def saturate (value : Nat) : Nat := min value (countLimit - 1)

theorem sub_of_le {left right : Nat} (le : right ≤ left) : sub left right = .ok (left - right) :=
  if_pos le

theorem remainder_of_pos {value divisor : Nat} (pos : 0 < divisor) :
    remainder value divisor = .ok (value % divisor) := if_neg (Nat.ne_of_gt pos)

/-- Saturating early or late makes no difference. -/
theorem saturate_add (left right : Nat) :
    saturate (saturate left + right) = saturate (left + right) := by
  simp only [saturate]
  omega

/-- Below a count that fits, saturation is not observable. -/
theorem saturate_lt_iff {value bound : Nat} (fits : bound < countLimit) :
    saturate value < bound ↔ value < bound := by
  simp only [saturate]
  omega

theorem sub_saturate {bound value : Nat} (fits : bound < countLimit) :
    bound - saturate value = bound - value := by
  simp only [saturate]
  omega

end Word

/-- The run of a list between two positions, provided that they lie in order inside it. -/
def run (list : List α) (start stop : Nat) : Except Breach (List α) :=
  if start ≤ stop ∧ stop ≤ list.length then .ok ((list.take stop).drop start)
  else .error .outOfRange

/-- The list with the run between two positions overwritten, provided that the positions lie in
order inside it and that the block has just the length of the run. -/
def overwrite (list : List α) (start stop : Nat) (block : List α) : Except Breach (List α) :=
  if start ≤ stop ∧ stop ≤ list.length then
    if block.length = stop - start then .ok (splice list start block) else .error .copyLength
  else .error .outOfRange

theorem run_of_le {list : List α} {start stop : Nat} (order : start ≤ stop)
    (inside : stop ≤ list.length) : run list start stop = .ok ((list.take stop).drop start) :=
  if_pos ⟨order, inside⟩

theorem overwrite_of_le {list block : List α} {start stop : Nat} (order : start ≤ stop)
    (inside : stop ≤ list.length) (length : block.length = stop - start) :
    overwrite list start stop block = .ok (splice list start block) := by
  rw [overwrite, if_pos ⟨order, inside⟩, if_pos length]

/-- The fields of a ring, on which nothing is known. -/
structure RingState (α : Type) where
  cells : List α
  windowLength : Nat
  hop : Nat
  write : Nat
  fresh : Nat

namespace RingState

/-- Write a block. -/
def push (state : RingState α) (block : List α) : Except Breach (RingState α) := do
  let capacity := state.cells.length
  let kept ← run block (block.length - capacity) block.length
  let first := min (← Word.sub capacity state.write) kept.length
  let cells ← overwrite state.cells state.write (← Word.add state.write first) (← run kept 0 first)
  let wrapped ← Word.sub kept.length first
  let cells ← overwrite cells 0 wrapped (← run kept first kept.length)
  let write ← Word.remainder (← Word.add state.write kept.length) capacity
  return { state with cells, write, fresh := Word.saturate (state.fresh + block.length) }

/-- The newest window as its two runs. -/
def newest (state : RingState α) : Except Breach (Window α) := do
  let capacity := state.cells.length
  let behind ← Word.sub (← Word.add state.write capacity) state.windowLength
  let start ← Word.remainder behind capacity
  if start < state.write then
    return ⟨← run state.cells start state.write, ← run state.cells 0 0⟩
  else
    return ⟨← run state.cells start capacity, ← run state.cells 0 state.write⟩

/-- Try to extract a window. -/
def extract? (state : RingState α) : Except Breach (Option (Window α) × RingState α) := do
  if state.fresh < state.hop then
    return (none, state)
  else
    return (some (← state.newest), { state with fresh := 0 })

/-- The new samples still needed before the next window is due. -/
def samplesUntilWindow (state : RingState α) : Nat := state.hop - state.fresh

/-- Feed a block in at most `passes` passes through the loop; without an answer if they were not
enough. -/
def feed : Nat → RingState α → List α →
    Except Breach (Option (List (Window α) × RingState α))
  | 0, _, _ => return none
  | passes + 1, state, rest => do
    let (due, ready) ← state.extract?
    if rest = [] then
      return some (due.toList, ready)
    else
      let portion := min ready.samplesUntilWindow rest.length
      let next ← ready.push (← run rest 0 portion)
      match ← feed passes next (← run rest portion rest.length) with
      | none => return none
      | some (windows, last) => return some (due.toList ++ windows, last)

/-- Make one call. -/
def perform (state : RingState α) : RingCall α → Except Breach (RingEvent α × RingState α)
  | .push block => do
    return (.pushed block, ← state.push block)
  | .extract => do
    match ← state.extract? with
    | (some window, next) => return (.extracted window, next)
    | (none, next) => return (.refused, next)

/-- Make calls one after the other, and report what each of them did. -/
def replay (state : RingState α) :
    List (RingCall α) → Except Breach (List (RingEvent α) × RingState α)
  | [] => return ([], state)
  | call :: rest => do
    let (event, next) ← state.perform call
    let (events, last) ← next.replay rest
    return (event :: events, last)

end RingState

namespace SampleRing

/-- The fields of a ring as a machine holds them. -/
def state (ring : SampleRing α) : RingState α where
  cells := ring.cells
  windowLength := ring.windowLength
  hop := ring.hop
  write := ring.write
  fresh := Word.saturate ring.fresh

theorem Stored.perform {ring : SampleRing α} (stored : ring.Stored) (call : RingCall α) :
    (ring.perform call).2.Stored := by
  cases call with
  | push block => exact stored.push block
  | extract =>
    obtain early | due := Nat.lt_or_ge ring.fresh ring.hop
    · rwa [SampleRing.perform, extract?_of_lt early]
    · rw [SampleRing.perform, extract?_of_le due]
      exact stored.consumed

end SampleRing

namespace RingState

/-- No access of a push is out of bounds, and no count overflows. -/
theorem push_state {ring : SampleRing α} (stored : ring.Stored) (block : List α) :
    ring.state.push block = .ok (ring.push block).state := by
  have inside := ring.write_lt
  have limit := stored.two_mul_lt
  rw [SampleRing.capacity] at limit
  have cut : (block.take block.length).drop (block.length - ring.cells.length) =
      block.drop (block.length - ring.cells.length) := by rw [List.take_length]
  have kept_le : (block.drop (block.length - ring.cells.length)).length ≤ ring.cells.length := by
    rw [List.length_drop]
    omega
  simp only [push, SampleRing.state, SampleRing.push, SampleRing.written,
    run_of_le (Nat.sub_le _ _) (Nat.le_refl _), cut, ok_bind, Word.sub_of_le (Nat.le_of_lt inside)]
  generalize block.drop (block.length - ring.cells.length) = kept at kept_le ⊢
  generalize first_eq : min (ring.cells.length - ring.write) kept.length = first
  have older : (kept.take first).length = ring.write + first - ring.write := by
    rw [List.length_take]
    omega
  have newer : (kept.drop first).length = kept.length - first - 0 := List.length_drop
  have kept_whole : (kept.take kept.length).drop first = kept.drop first := by
    rw [List.take_length]
  have length : (splice ring.cells ring.write (kept.take first)).length = ring.cells.length :=
    length_splice (by omega)
  rw [Word.add_of_lt (by omega), ok_bind, run_of_le (Nat.zero_le _) (by omega), ok_bind,
    List.drop_zero, overwrite_of_le (by omega) (by omega) older, ok_bind,
    Word.sub_of_le (by omega), ok_bind, run_of_le (by omega) (Nat.le_refl _), ok_bind,
    kept_whole, overwrite_of_le (Nat.zero_le _) (by omega) newer, ok_bind,
    Word.add_of_lt (by omega), ok_bind, Word.remainder_of_pos (by omega), ok_bind,
    Word.saturate_add]
  rfl

/-- No access of the newest window is out of bounds. -/
theorem newest_state {ring : SampleRing α} (stored : ring.Stored) :
    ring.state.newest = .ok ring.newest := by
  have inside := ring.write_lt
  have window_le := ring.windowLength_le
  have limit := stored.two_mul_lt
  rw [SampleRing.capacity] at limit
  simp only [newest, SampleRing.state, SampleRing.newest]
  rw [Word.add_of_lt (by omega), ok_bind, Word.sub_of_le (by omega), ok_bind,
    Word.remainder_of_pos (by omega), ok_bind]
  generalize start_eq :
    (ring.write + ring.cells.length - ring.windowLength) % ring.cells.length = start
  have start_lt : start < ring.cells.length := by
    rw [← start_eq]
    exact Nat.mod_lt _ (by omega)
  change (if start < ring.write then _ else _) = Except.ok (if start < ring.write then _ else _)
  obtain before | around := Nat.lt_or_ge start ring.write
  · rw [if_pos before, if_pos before, run_of_le (by omega) (by omega), ok_bind,
      run_of_le (Nat.le_refl _) (by omega), ok_bind]
    rfl
  · rw [if_neg (Nat.not_lt.mpr around), if_neg (Nat.not_lt.mpr around),
      run_of_le (by omega) (Nat.le_refl _), ok_bind, run_of_le (Nat.zero_le _) (by omega), ok_bind,
      List.take_length, List.drop_zero]
    rfl

theorem extract?_state {ring : SampleRing α} (stored : ring.Stored) :
    ring.state.extract? = .ok (ring.extract?.1, ring.extract?.2.state) := by
  have sameTest : ring.state.fresh < ring.state.hop ↔ ring.fresh < ring.hop :=
    Word.saturate_lt_iff stored.hop_lt
  obtain early | due := Nat.lt_or_ge ring.fresh ring.hop
  · rw [extract?, if_pos (sameTest.mpr early), SampleRing.extract?_of_lt early]
    rfl
  · rw [extract?, if_neg (mt sameTest.mp (Nat.not_lt.mpr due)), newest_state stored, ok_bind,
      SampleRing.extract?_of_le due]
    rfl

theorem samplesUntilWindow_state {ring : SampleRing α} (stored : ring.Stored) :
    ring.state.samplesUntilWindow = ring.samplesUntilWindow :=
  Word.sub_saturate stored.hop_lt

theorem perform_state {ring : SampleRing α} (stored : ring.Stored) (call : RingCall α) :
    ring.state.perform call = .ok ((ring.perform call).1, (ring.perform call).2.state) := by
  cases call with
  | push block =>
    rw [perform, push_state stored]
    rfl
  | extract =>
    rw [perform, extract?_state stored, SampleRing.perform]
    cases ring.extract? with
    | mk window next => cases window <;> rfl

/-- A replay on a ring that was allocated meets no breach. -/
theorem replay_state {ring : SampleRing α} (stored : ring.Stored) (calls : List (RingCall α)) :
    ring.state.replay calls = .ok ((ring.replay calls).1, (ring.replay calls).2.state) := by
  induction calls generalizing ring with
  | nil => rfl
  | cons call rest ih =>
    rw [replay, perform_state stored, ok_bind]
    dsimp only
    rw [ih (stored.perform call), ok_bind]
    rfl

/-- A feed on a ring that was allocated meets no breach, and ends after at most one pass for each
sample of its block and one more. -/
theorem feed_state {ring : SampleRing α} (stored : ring.Stored) {passes : Nat} {block : List α}
    (enough : block.length < passes) :
    ring.state.feed passes block = .ok (some ((ring.feed block).1, (ring.feed block).2.state)) := by
  induction passes generalizing ring block with
  | zero => omega
  | succ passes ih =>
    have ready := stored.extract?
    rw [feed, extract?_state stored, ok_bind, SampleRing.feed]
    dsimp only
    by_cases empty : block = []
    · rw [if_pos empty, if_pos empty]
      rfl
    · rw [if_neg empty, if_neg empty, samplesUntilWindow_state ready]
      generalize portion_eq :
        min ring.extract?.2.samplesUntilWindow block.length = portion
      have later : (block.take block.length).drop portion = block.drop portion := by
        rw [List.take_length]
      have shorter : (block.drop portion).length < passes := by
        have needed := ring.samplesUntilWindow_extract?_pos
        have some : 0 < block.length := List.length_pos_iff.mpr empty
        rw [List.length_drop]
        omega
      rw [run_of_le (Nat.zero_le _) (by omega), ok_bind, List.drop_zero, push_state ready, ok_bind,
        run_of_le (by omega) (Nat.le_refl _), ok_bind, later,
        ih (ready.push (block.take portion)) shorter, ok_bind]
      rfl

end RingState

end Waterfall

import Mathlib.Data.List.DropRight
import Waterfall.Analysis.SampleRing

/-! # The ring as a plain list of its newest samples

Reading the ring from the next write position on, and around its end, gives its samples from the
oldest to the newest. In this view a push appends the block and keeps as many newest samples as the
ring has cells, wherever the write position was and however long the block is; the newest window is
a suffix of the view. The view and the write position determine the cells, so rings that agree in
both agree altogether.
-/

namespace Waterfall

variable {α : Type}

/-- The last elements of a list that ends in `block`. -/
theorem rtake_append (list block : List α) (count : Nat) :
    (list ++ block).rtake count = list.rtake (count - block.length) ++ block.rtake count := by
  simp only [List.rtake, List.length_append, List.drop_append]
  obtain within | beyond := Nat.le_total count block.length
  · have none : list.length ≤ list.length + block.length - count := by omega
    have all : list.length ≤ list.length - (count - block.length) := by omega
    rw [List.drop_eq_nil_of_le none, List.drop_eq_nil_of_le all]
    congr 2
    omega
  · congr 2 <;> omega

/-- The last elements of a longer suffix are the last elements of the list. -/
theorem rtake_rtake_of_le (list : List α) {few many : Nat} (le : few ≤ many) :
    (list.rtake many).rtake few = list.rtake few := by
  simp only [List.rtake, List.length_drop, List.drop_drop]
  congr 1
  omega

/-- What a suffix leaves out cannot come back when more is appended. -/
theorem rtake_append_rtake (list block : List α) (count : Nat) :
    (list.rtake count ++ block).rtake count = (list ++ block).rtake count := by
  rw [rtake_append, rtake_append, rtake_rtake_of_le list (Nat.sub_le _ _)]

@[simp] theorem Window.length_samples (window : Window α) :
    window.samples.length = window.length := List.length_append

/-- Copying into a buffer of the window's own length succeeds and leaves exactly its samples. -/
theorem Window.copyInto_length (window : Window α) :
    window.copyInto window.length = .ok window.samples := if_pos rfl

namespace SampleRing

/-- The samples in the ring, oldest first. -/
def unrolled (ring : SampleRing α) : List α :=
  ring.cells.drop ring.write ++ ring.cells.take ring.write

theorem windowLength_le_capacity (ring : SampleRing α) : ring.windowLength ≤ ring.capacity :=
  ring.windowLength_le

@[simp] theorem length_unrolled (ring : SampleRing α) : ring.unrolled.length = ring.capacity := by
  have inside := ring.write_lt
  simp only [unrolled, capacity, List.length_append, List.length_drop, List.length_take]
  omega

/-- A block that ends before the end of the ring is one overwritten run. -/
private theorem written_of_le {cells kept : List α} {write : Nat}
    (before : write + kept.length ≤ cells.length) :
    written cells write kept = cells.take write ++ (kept ++ cells.drop (write + kept.length)) := by
  have first : min (cells.length - write) kept.length = kept.length := by omega
  simp only [written, first, List.take_length, List.drop_length, splice, List.take_zero,
    List.length_nil, List.drop_zero, List.nil_append, Nat.add_zero]

/-- A block that goes around the end fills the ring from `write` on and continues at its start. -/
private theorem written_of_lt {cells kept : List α} {write : Nat} (inside : write < cells.length)
    (fits : kept.length ≤ cells.length) (around : cells.length < write + kept.length) :
    written cells write kept = kept.drop (cells.length - write) ++
      ((cells.take write).drop (write + kept.length - cells.length) ++
        kept.take (cells.length - write)) := by
  have first : min (cells.length - write) kept.length = cells.length - write := by omega
  have filled : (kept.take (cells.length - write)).length = cells.length - write := by
    rw [List.length_take]
    omega
  have end_eq : write + (cells.length - write) = cells.length := by omega
  have rest : (kept.drop (cells.length - write)).length = write + kept.length - cells.length := by
    rw [List.length_drop]
    omega
  have front : (cells.take write).length = write := by
    rw [List.length_take]
    omega
  have inFront : write + kept.length - cells.length - write = 0 := by omega
  simp only [written, first, splice, filled, end_eq, rest, List.take_zero, List.nil_append,
    Nat.zero_add, List.drop_length, List.append_nil, List.drop_append, front, inFront,
    List.drop_zero]

/-- Read from the position after the written block, the cells end in the block. -/
private theorem rotate_written {cells kept : List α} {write : Nat} (inside : write < cells.length)
    (fits : kept.length ≤ cells.length) :
    (written cells write kept).drop ((write + kept.length) % cells.length) ++
        (written cells write kept).take ((write + kept.length) % cells.length) =
      (cells.drop write ++ cells.take write).drop kept.length ++ kept := by
  have front : (cells.take write).length = write := by
    rw [List.length_take]
    omega
  have back : (cells.drop write).length = cells.length - write := List.length_drop
  have start : (cells.take write ++ kept).length = write + kept.length := by
    rw [List.length_append, front]
  obtain before | full | around := Nat.lt_trichotomy (write + kept.length) cells.length
  · have unwrapped : kept.length - (cells.drop write).length = 0 := by omega
    rw [written_of_le (Nat.le_of_lt before), Nat.mod_eq_of_lt before, ← List.append_assoc,
      List.drop_left' start, List.take_left' start, List.drop_append, unwrapped, List.drop_drop,
      List.drop_zero, List.append_assoc]
  · have whole : kept.length = (cells.drop write).length := by omega
    rw [written_of_le (Nat.le_of_eq full), full, Nat.mod_self, List.drop_length, whole,
      List.drop_left, List.drop_zero, List.take_zero, List.append_nil, List.append_nil]
  · have position : (write + kept.length) % cells.length = write + kept.length - cells.length := by
      rw [Nat.mod_eq_sub_mod (Nat.le_of_lt around), Nat.mod_eq_of_lt (by omega)]
    have rest : (kept.drop (cells.length - write)).length = write + kept.length - cells.length := by
      rw [List.length_drop]
      omega
    have behind : kept.length - (cells.drop write).length =
        write + kept.length - cells.length := by omega
    have beyond : (cells.drop write).length ≤ kept.length := by omega
    rw [written_of_lt inside fits around, position, List.drop_left' rest, List.take_left' rest,
      List.drop_append, List.drop_eq_nil_of_le beyond, behind, List.nil_append, List.append_assoc,
      List.take_append_drop]

/-- A push appends the block to the view and forgets the oldest samples beyond the capacity. -/
theorem unrolled_push (ring : SampleRing α) (block : List α) :
    (ring.push block).unrolled = (ring.unrolled ++ block).rtake ring.capacity := by
  have length := ring.length_unrolled
  have kept_le : (block.drop (block.length - ring.cells.length)).length ≤ ring.cells.length := by
    rw [List.length_drop]
    omega
  have same : (ring.push block).unrolled =
      ring.unrolled.drop (block.drop (block.length - ring.cells.length)).length ++
        block.rtake ring.capacity := by
    exact rotate_written ring.write_lt kept_le
  rw [same, rtake_append]
  congr 1
  rw [List.rtake, length, List.length_drop]
  congr 1
  change _ = ring.cells.length - (ring.cells.length - block.length)
  omega

@[simp] theorem write_push (ring : SampleRing α) (block : List α) :
    (ring.push block).write = (ring.write + min block.length ring.capacity) % ring.capacity := by
  have kept : (block.drop (block.length - ring.cells.length)).length =
      min block.length ring.cells.length := by
    rw [List.length_drop]
    omega
  simp only [push, capacity, kept]

@[simp] theorem capacity_push (ring : SampleRing α) (block : List α) :
    (ring.push block).capacity = ring.capacity :=
  length_written ring.write_lt (by rw [List.length_drop]; omega)

@[simp] theorem windowLength_push (ring : SampleRing α) (block : List α) :
    (ring.push block).windowLength = ring.windowLength := rfl

@[simp] theorem hop_push (ring : SampleRing α) (block : List α) :
    (ring.push block).hop = ring.hop := rfl

@[simp] theorem fresh_push (ring : SampleRing α) (block : List α) :
    (ring.push block).fresh = ring.fresh + block.length := rfl

@[simp] theorem unrolled_consumed (ring : SampleRing α) :
    ring.consumed.unrolled = ring.unrolled := rfl

@[simp] theorem capacity_consumed (ring : SampleRing α) :
    ring.consumed.capacity = ring.capacity := rfl

@[simp] theorem windowLength_consumed (ring : SampleRing α) :
    ring.consumed.windowLength = ring.windowLength := rfl

@[simp] theorem hop_consumed (ring : SampleRing α) : ring.consumed.hop = ring.hop := rfl

@[simp] theorem fresh_consumed (ring : SampleRing α) : ring.consumed.fresh = 0 := rfl

@[simp] theorem write_consumed (ring : SampleRing α) : ring.consumed.write = ring.write := rfl

theorem extract?_of_lt {ring : SampleRing α} (early : ring.fresh < ring.hop) :
    ring.extract? = (none, ring) := if_pos early

theorem extract?_of_le {ring : SampleRing α} (due : ring.hop ≤ ring.fresh) :
    ring.extract? = (some ring.newest, ring.consumed) := if_neg (Nat.not_lt.mpr due)

theorem isSome_extract?_iff (ring : SampleRing α) :
    ring.extract?.1.isSome ↔ ring.hop ≤ ring.fresh := by
  obtain early | due := Nat.lt_or_ge ring.fresh ring.hop
  · simp only [extract?_of_lt early, Option.isSome_none, Bool.false_eq_true, false_iff]
    omega
  · simp only [extract?_of_le due, Option.isSome_some, true_iff]
    exact due

/-- An extraction never gives anything but the newest window. -/
theorem eq_newest_of_extract? {ring : SampleRing α} {window : Window α}
    (extracted : ring.extract?.1 = some window) : window = ring.newest := by
  obtain early | due := Nat.lt_or_ge ring.fresh ring.hop
  · rw [extract?_of_lt early] at extracted
    cases extracted
  · rw [extract?_of_le due] at extracted
    exact (Option.some.inj extracted).symm

@[simp] theorem hop_extract? (ring : SampleRing α) : ring.extract?.2.hop = ring.hop := by
  unfold extract?
  split <;> rfl

@[simp] theorem windowLength_extract? (ring : SampleRing α) :
    ring.extract?.2.windowLength = ring.windowLength := by
  unfold extract?
  split <;> rfl

@[simp] theorem capacity_extract? (ring : SampleRing α) :
    ring.extract?.2.capacity = ring.capacity := by
  unfold extract?
  split <;> rfl

theorem fresh_extract?_lt (ring : SampleRing α) : ring.extract?.2.fresh < ring.hop := by
  obtain early | due := Nat.lt_or_ge ring.fresh ring.hop
  · rwa [extract?_of_lt early]
  · rw [extract?_of_le due]
    exact ring.hop_pos

/-- A second extraction finds nothing. -/
theorem extract?_extract? (ring : SampleRing α) :
    ring.extract?.2.extract? = (none, ring.extract?.2) :=
  extract?_of_lt (ring.hop_extract?.symm ▸ ring.fresh_extract?_lt)

/-- The newest window is the suffix of the view that has its length. -/
theorem samples_newest (ring : SampleRing α) (nonempty : 1 ≤ ring.windowLength) :
    ring.newest.samples = ring.unrolled.rtake ring.windowLength := by
  have inside := ring.write_lt
  have le := ring.windowLength_le
  have front : (ring.cells.take ring.write).length = ring.write := by
    rw [List.length_take]
    omega
  have view : ring.unrolled.rtake ring.windowLength =
      (ring.cells.drop ring.write).rtake (ring.windowLength - ring.write) ++
        (ring.cells.take ring.write).rtake ring.windowLength := by
    rw [unrolled, rtake_append, front]
  obtain long | short := Nat.lt_or_ge ring.write ring.windowLength
  · -- The window starts before the end of the ring and goes on at its start.
    have start : (ring.write + ring.cells.length - ring.windowLength) % ring.cells.length =
        ring.write + ring.cells.length - ring.windowLength := Nat.mod_eq_of_lt (by omega)
    have notBefore : ¬ring.write + ring.cells.length - ring.windowLength < ring.write := by omega
    have back : ring.write + (ring.cells.length - ring.write - (ring.windowLength - ring.write)) =
        ring.write + ring.cells.length - ring.windowLength := by omega
    rw [view]
    simp only [newest, start, if_neg notBefore, Window.samples, List.rtake, List.length_drop,
      List.drop_drop, back, front, Nat.sub_eq_zero_of_le (Nat.le_of_lt long), List.drop_zero]
  · -- The window lies in one run that ends at the write position.
    have start : (ring.write + ring.cells.length - ring.windowLength) % ring.cells.length =
        ring.write - ring.windowLength := by
      rw [show ring.write + ring.cells.length - ring.windowLength =
        ring.write - ring.windowLength + ring.cells.length by omega, Nat.add_mod_right,
        Nat.mod_eq_of_lt (by omega)]
    have before : ring.write - ring.windowLength < ring.write := by omega
    rw [view, Nat.sub_eq_zero_of_le short, List.rtake_zero, List.nil_append]
    simp only [newest, start, if_pos before, Window.samples, List.append_nil, List.rtake, front]

/-- A window has its full length, however the ring wraps. -/
theorem length_newest (ring : SampleRing α) (nonempty : 1 ≤ ring.windowLength) :
    ring.newest.length = ring.windowLength := by
  have le := ring.windowLength_le
  rw [← Window.length_samples, samples_newest ring nonempty, List.rtake, List.length_drop,
    length_unrolled, capacity]
  omega

private theorem cells_eq (ring : SampleRing α) : ring.cells =
    ring.unrolled.drop (ring.capacity - ring.write) ++
      ring.unrolled.take (ring.capacity - ring.write) := by
  have back : (ring.cells.drop ring.write).length = ring.capacity - ring.write := List.length_drop
  rw [unrolled, List.drop_left' back, List.take_left' back, List.take_append_drop]

/-- The view and the write position determine the cells. -/
theorem eq_of_unrolled {first second : SampleRing α} (view : first.unrolled = second.unrolled)
    (write : first.write = second.write) (windowLength : first.windowLength = second.windowLength)
    (hop : first.hop = second.hop) (fresh : first.fresh = second.fresh) : first = second := by
  have capacity : first.capacity = second.capacity := by
    rw [← length_unrolled, view, length_unrolled]
  have cells : first.cells = second.cells := by
    rw [cells_eq first, cells_eq second, view, write, capacity]
  cases first
  cases second
  simp_all only

/-- Two blocks that fit into the ring together may be pushed as one. -/
theorem push_push (ring : SampleRing α) {first second : List α}
    (fits : first.length + second.length ≤ ring.capacity) :
    (ring.push first).push second = ring.push (first ++ second) := by
  apply eq_of_unrolled
  · simp only [unrolled_push, capacity_push, rtake_append_rtake, List.append_assoc]
  · simp only [write_push, capacity_push, List.length_append, Nat.mod_add_mod]
    congr 1
    omega
  · rfl
  · rfl
  · simp only [fresh_push, List.length_append, Nat.add_assoc]

/-- What an allocation establishes and no operation changes. -/
structure Stored (ring : SampleRing α) : Prop where
  hop_le : ring.hop ≤ ring.capacity
  capacity_fits : ring.capacity * Word.sampleBytes < Word.storageLimit

theorem allocate_of_lt (silence : α) {windowLength : Nat} {overlap : Float32}
    (fits : Overlap.ringCapacity windowLength overlap * Word.sampleBytes < Word.storageLimit) :
    allocate silence windowLength overlap = .ok (create silence windowLength overlap) := by
  rw [allocate, Word.reserve, if_pos fits]
  rfl

/-- An allocation that succeeds gives the silent ring, and room for all of it. -/
theorem stored_of_allocate {silence : α} {windowLength : Nat} {overlap : Float32}
    {ring : SampleRing α} (allocated : allocate silence windowLength overlap = .ok ring) :
    ring = create silence windowLength overlap ∧ ring.Stored := by
  obtain fits | unfit := Nat.lt_or_ge
    (Overlap.ringCapacity windowLength overlap * Word.sampleBytes) Word.storageLimit
  · rw [allocate_of_lt silence fits] at allocated
    obtain rfl := Except.ok.inj allocated
    have capacity : (create silence windowLength overlap).capacity =
        Overlap.ringCapacity windowLength overlap := List.length_replicate
    refine ⟨rfl, ?_, ?_⟩
    · have hop := Overlap.hop_le windowLength overlap
      have window := Overlap.length_le_ringCapacity windowLength overlap
      have one := Overlap.one_le_ringCapacity windowLength overlap
      rw [capacity]
      exact hop.trans (max_le window one)
    · rwa [capacity]
  · have refused : Word.reserve (Overlap.ringCapacity windowLength overlap) Word.sampleBytes =
        .error .overflow := if_neg (Nat.not_lt.mpr unfit)
    rw [allocate, refused] at allocated
    cases allocated

theorem Stored.push {ring : SampleRing α} (stored : ring.Stored) (block : List α) :
    (ring.push block).Stored := by
  refine ⟨?_, ?_⟩
  · rw [capacity_push]
    exact stored.hop_le
  · rw [capacity_push]
    exact stored.capacity_fits

theorem Stored.consumed {ring : SampleRing α} (stored : ring.Stored) : ring.consumed.Stored :=
  ⟨stored.hop_le, stored.capacity_fits⟩

theorem Stored.extract? {ring : SampleRing α} (stored : ring.Stored) :
    ring.extract?.2.Stored := by
  obtain early | due := Nat.lt_or_ge ring.fresh ring.hop
  · rwa [extract?_of_lt early]
  · rw [extract?_of_le due]
    exact stored.consumed

/-- Twice the capacity is still a 64-bit count, so no sum of two positions overflows. -/
theorem Stored.two_mul_lt {ring : SampleRing α} (stored : ring.Stored) :
    2 * ring.capacity < Word.countLimit := by
  have limits : Word.countLimit = 2 * Word.storageLimit := by decide
  have fits := stored.capacity_fits
  rw [Word.sampleBytes] at fits
  omega

theorem Stored.hop_lt {ring : SampleRing α} (stored : ring.Stored) :
    ring.hop < Word.countLimit := by
  have le := stored.hop_le
  have lt := stored.two_mul_lt
  omega

end SampleRing

end Waterfall

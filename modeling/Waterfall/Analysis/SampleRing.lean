import Waterfall.Analysis.Overlap
import Waterfall.Splice
import Waterfall.Word

/-! # The ring of recent samples

Capture writes samples into a ring and reads a window of the newest ones whenever a hop of new
samples has arrived. The ring starts silent, so the first window already has its full length. A
window is read as two runs, because its samples may lie on both sides of the ring's end.
-/

namespace Waterfall

variable {α : Type}

/-- A ring of samples that yields a window of `windowLength` samples every `hop` new ones. -/
structure SampleRing (α : Type) where
  cells : List α
  windowLength : Nat
  hop : Nat
  /-- The position of the next sample to be written. -/
  write : Nat
  /-- The samples written since the last window was extracted. -/
  fresh : Nat
  windowLength_le : windowLength ≤ cells.length
  hop_pos : 0 < hop
  write_lt : write < cells.length

/-- A window as the two runs of the ring that hold it, the older run first. -/
structure Window (α : Type) where
  head : List α
  tail : List α

namespace Window

/-- The samples of a window, oldest first. -/
def samples (window : Window α) : List α := window.head ++ window.tail

/-- The number of samples in a window. -/
def length (window : Window α) : Nat := window.head.length + window.tail.length

/-- The contents of a buffer of `size` samples after the window was copied into it. -/
def copyInto (window : Window α) (size : Nat) : Except Breach (List α) :=
  if window.length = size then .ok window.samples else .error .copyLength

end Window

namespace SampleRing

/-- A silent ring for windows of `windowLength` samples that share a ratio `overlap` of them. -/
def create (silence : α) (windowLength : Nat) (overlap : Float32) : SampleRing α where
  cells := List.replicate (Overlap.ringCapacity windowLength overlap) silence
  windowLength := windowLength
  hop := Overlap.hop windowLength overlap
  write := 0
  fresh := 0
  windowLength_le := by simpa using Overlap.length_le_ringCapacity windowLength overlap
  hop_pos := Overlap.one_le_hop windowLength overlap
  write_lt := by
    simpa [Nat.lt_iff_add_one_le] using Overlap.one_le_ringCapacity windowLength overlap

/-- A silent ring, provided that its cells can be stored. -/
def allocate (silence : α) (windowLength : Nat) (overlap : Float32) :
    Except Breach (SampleRing α) := do
  Word.reserve (Overlap.ringCapacity windowLength overlap) Word.sampleBytes
  return create silence windowLength overlap

/-- The number of samples the ring holds. -/
def capacity (ring : SampleRing α) : Nat := ring.cells.length

/-- The new samples still needed before the next window is due. -/
def samplesUntilWindow (ring : SampleRing α) : Nat := ring.hop - ring.fresh

/-- The cells after `kept` was written from `write` on, wrapping once at the end. -/
def written (cells : List α) (write : Nat) (kept : List α) : List α :=
  let first := min (cells.length - write) kept.length
  splice (splice cells write (kept.take first)) 0 (kept.drop first)

/-- Writing at most one ring of samples keeps the number of cells. -/
theorem length_written {cells : List α} {write : Nat} {kept : List α}
    (inside : write < cells.length) (fits : kept.length ≤ cells.length) :
    (written cells write kept).length = cells.length := by
  have first : (splice cells write
      (kept.take (min (cells.length - write) kept.length))).length = cells.length :=
    length_splice (by simp only [List.length_take]; omega)
  simp only [written]
  rw [length_splice (by rw [first]; simp only [List.length_drop]; omega), first]

/-- Write a block over the oldest samples; of a longer block only the last ring of samples stays. -/
def push (ring : SampleRing α) (block : List α) : SampleRing α :=
  let kept := block.drop (block.length - ring.cells.length)
  have kept_le : kept.length ≤ ring.cells.length := by
    simp only [kept, List.length_drop]; omega
  have length_eq := length_written ring.write_lt kept_le
  { ring with
    cells := written ring.cells ring.write kept
    write := (ring.write + kept.length) % ring.cells.length
    fresh := ring.fresh + block.length
    windowLength_le := by rw [length_eq]; exact ring.windowLength_le
    write_lt := by
      rw [length_eq]
      exact Nat.mod_lt _ (Nat.lt_of_le_of_lt (Nat.zero_le _) ring.write_lt) }

/-- The newest window of samples, whether or not it is due. -/
def newest (ring : SampleRing α) : Window α :=
  let start := (ring.write + ring.cells.length - ring.windowLength) % ring.cells.length
  if start < ring.write then
    { head := (ring.cells.take ring.write).drop start, tail := [] }
  else
    { head := ring.cells.drop start, tail := ring.cells.take ring.write }

/-- The ring with no fresh samples: a window was just extracted. -/
def consumed (ring : SampleRing α) : SampleRing α := { ring with fresh := 0 }

/-- The newest window, once a hop of new samples has arrived; they then count as consumed. -/
def extract? (ring : SampleRing α) : Option (Window α) × SampleRing α :=
  if ring.fresh < ring.hop then (none, ring) else (some ring.newest, ring.consumed)

/-- After an extraction was tried, at least one more sample is needed. -/
theorem samplesUntilWindow_extract?_pos (ring : SampleRing α) :
    0 < ring.extract?.2.samplesUntilWindow := by
  unfold extract? samplesUntilWindow
  split
  · simp only; omega
  · simpa [consumed] using ring.hop_pos

/-- Write a block cut at window boundaries, and return every window that becomes due, in order. -/
def feed (ring : SampleRing α) (block : List α) : List (Window α) × SampleRing α :=
  let due := ring.extract?.1.toList
  let ready := ring.extract?.2
  if block = [] then (due, ready)
  else
    let portion := min ready.samplesUntilWindow block.length
    let rest := feed (ready.push (block.take portion)) (block.drop portion)
    (due ++ rest.1, rest.2)
termination_by block.length
decreasing_by
  have := samplesUntilWindow_extract?_pos ring
  have : 0 < block.length := List.length_pos_iff.mpr ‹¬block = []›
  simp only [List.length_drop]
  omega

/-- Write blocks one after the other, and return every window that becomes due, in order. -/
def feedAll (ring : SampleRing α) : List (List α) → List (Window α) × SampleRing α
  | [] => ([], ring)
  | block :: rest =>
    let (windows, ring) := ring.feed block
    let (others, ring) := ring.feedAll rest
    (windows ++ others, ring)

end SampleRing

end Waterfall

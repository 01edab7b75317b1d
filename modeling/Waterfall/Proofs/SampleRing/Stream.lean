import Waterfall.Proofs.SampleRing.Unrolled

/-! # The ring as the end of a stream

To its callers a ring is the end of a stream: silence, followed by every sample ever pushed. A
replay makes calls on a ring one after the other and reports what each of them did. Whatever the
calls were, the ring then holds the end of that stream, and its count of fresh samples is the number
of samples pushed after the last extraction that the report shows.
-/

namespace Waterfall

variable {α : Type}

/-- The last `length` samples of a stream that follows a silence of that length. -/
def streamWindow (silence : α) (length : Nat) (stream : List α) : List α :=
  (List.replicate length silence ++ stream).rtake length

@[simp] theorem length_streamWindow (silence : α) (length : Nat) (stream : List α) :
    (streamWindow silence length stream).length = length := by
  simp only [streamWindow, List.rtake, List.length_drop, List.length_append, List.length_replicate]
  omega

/-- What was already cut off does not matter for what follows. -/
theorem rtake_streamWindow_append (silence : α) (length : Nat) (stream block : List α) :
    (streamWindow silence length stream ++ block).rtake length =
      streamWindow silence length (stream ++ block) := by
  rw [streamWindow, rtake_append_rtake, List.append_assoc, streamWindow]

/-- A shorter window is the end of a longer one. -/
theorem rtake_streamWindow (silence : α) (stream : List α) {few many : Nat} (le : few ≤ many) :
    (streamWindow silence many stream).rtake few = streamWindow silence few stream := by
  have silent : (List.replicate many silence).rtake (few - stream.length) =
      (List.replicate few silence).rtake (few - stream.length) := by
    simp only [List.rtake, List.length_replicate, List.drop_replicate]
    congr 1
    omega
  rw [streamWindow, rtake_rtake_of_le _ le, rtake_append, silent, ← rtake_append, streamWindow]

/-- A call on a sample ring. -/
inductive RingCall (α : Type)
  /-- Write a block. -/
  | push (block : List α)
  /-- Try to extract a window. -/
  | extract

/-- What a call on a sample ring did. -/
inductive RingEvent (α : Type)
  | pushed (block : List α)
  | extracted (window : Window α)
  /-- No window was due. -/
  | refused

namespace RingEvent

/-- The samples that reached the ring. -/
def block : RingEvent α → List α
  | pushed block => block
  | extracted _ | refused => []

/-- Whether a window was extracted. -/
def isExtraction : RingEvent α → Bool
  | extracted _ => true
  | pushed _ | refused => false

/-- Every sample pushed, in order. -/
def stream (events : List (RingEvent α)) : List α := events.flatMap block

/-- The samples pushed since the last extraction, or since the beginning if there was none. -/
def fresh (events : List (RingEvent α)) : List α :=
  stream (events.rtakeWhile fun event => !event.isExtraction)

theorem stream_concat (events : List (RingEvent α)) (event : RingEvent α) :
    stream (events ++ [event]) = stream events ++ event.block := by
  simp only [stream, List.flatMap_append, List.flatMap_cons, List.flatMap_nil, List.append_nil]

theorem fresh_concat (events : List (RingEvent α)) (event : RingEvent α) :
    fresh (events ++ [event]) = if event.isExtraction then [] else fresh events ++ event.block := by
  cases isExtraction : event.isExtraction <;>
    simp [fresh, isExtraction, stream]

end RingEvent

namespace SampleRing

/-- Make one call. -/
def perform (ring : SampleRing α) : RingCall α → RingEvent α × SampleRing α
  | .push block => (.pushed block, ring.push block)
  | .extract =>
    match ring.extract? with
    | (some window, ring) => (.extracted window, ring)
    | (none, ring) => (.refused, ring)

/-- Make calls one after the other, and report what each of them did. -/
def replay (ring : SampleRing α) : List (RingCall α) → List (RingEvent α) × SampleRing α
  | [] => ([], ring)
  | call :: rest =>
    let (event, next) := ring.perform call
    let (events, last) := next.replay rest
    (event :: events, last)

/-- A replay can be cut between any two calls. -/
theorem replay_append (ring : SampleRing α) (first second : List (RingCall α)) :
    ring.replay (first ++ second) =
      ((ring.replay first).1 ++ ((ring.replay first).2.replay second).1,
        ((ring.replay first).2.replay second).2) := by
  induction first generalizing ring with
  | nil => rfl
  | cons call rest ih => simp only [List.cons_append, replay, ih]

theorem replay_concat (ring : SampleRing α) (calls : List (RingCall α)) (call : RingCall α) :
    ring.replay (calls ++ [call]) =
      ((ring.replay calls).1 ++ [((ring.replay calls).2.perform call).1],
        ((ring.replay calls).2.perform call).2) := by
  rw [replay_append]
  rfl

/-- The ring holds the end of a stream that follows silence. -/
def Holds (silence : α) (stream : List α) (ring : SampleRing α) : Prop :=
  ring.unrolled = streamWindow silence ring.capacity stream

theorem holds_create (silence : α) (windowLength : Nat) (overlap : Float32) :
    (create silence windowLength overlap).Holds silence [] := by
  simp [Holds, unrolled, create, capacity, streamWindow, List.rtake]

theorem Holds.push {silence : α} {stream : List α} {ring : SampleRing α}
    (holds : ring.Holds silence stream) (block : List α) :
    (ring.push block).Holds silence (stream ++ block) := by
  rw [Holds, unrolled_push, holds, rtake_streamWindow_append, capacity_push]

theorem Holds.consumed {silence : α} {stream : List α} {ring : SampleRing α}
    (holds : ring.Holds silence stream) : ring.consumed.Holds silence stream := holds

theorem Holds.extract? {silence : α} {stream : List α} {ring : SampleRing α}
    (holds : ring.Holds silence stream) : ring.extract?.2.Holds silence stream := by
  obtain early | due := Nat.lt_or_ge ring.fresh ring.hop
  · rwa [extract?_of_lt early]
  · rw [extract?_of_le due]
    exact holds.consumed

/-- The newest window is the end of the stream, silence included. -/
theorem Holds.samples_newest {silence : α} {stream : List α} {ring : SampleRing α}
    (holds : ring.Holds silence stream) (nonempty : 1 ≤ ring.windowLength) :
    ring.newest.samples = streamWindow silence ring.windowLength stream := by
  rw [SampleRing.samples_newest ring nonempty, holds,
    rtake_streamWindow silence stream ring.windowLength_le_capacity]

/-- One call keeps the count of fresh samples equal to what the events show. -/
private theorem fresh_perform {ring : SampleRing α} {events : List (RingEvent α)}
    (same : ring.fresh = (RingEvent.fresh events).length) (call : RingCall α) :
    (ring.perform call).2.fresh =
      (RingEvent.fresh (events ++ [(ring.perform call).1])).length := by
  rw [RingEvent.fresh_concat]
  cases call with
  | push block =>
    simp only [perform, RingEvent.isExtraction, RingEvent.block, Bool.false_eq_true, if_false,
      fresh_push, List.length_append, same]
  | extract =>
    obtain early | due := Nat.lt_or_ge ring.fresh ring.hop
    · simp only [perform, extract?_of_lt early, RingEvent.isExtraction, RingEvent.block,
        Bool.false_eq_true, if_false, List.append_nil, same]
    · simp only [perform, extract?_of_le due, RingEvent.isExtraction, if_true, fresh_consumed,
        List.length_nil]

/-- After a whole replay the ring counts the samples pushed since the last extraction. -/
theorem fresh_replay {ring : SampleRing α} (none : ring.fresh = 0) (calls : List (RingCall α)) :
    (ring.replay calls).2.fresh = (RingEvent.fresh (ring.replay calls).1).length := by
  induction calls using List.reverseRecOn with
  | nil => exact none
  | append_singleton calls call ih =>
    rw [replay_concat]
    exact fresh_perform ih call

end SampleRing

end Waterfall

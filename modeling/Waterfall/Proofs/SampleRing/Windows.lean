import Waterfall.Proofs.SampleRing.Guarded

/-! # What a fresh ring gives its callers

A ring that was just allocated is a stream of samples cut into overlapping windows. Whatever is
pushed and extracted, a window is due once a hop of samples arrived since the last one, and it is
the end of the stream. A feed gives one window for every hop that its block completes, each as of
the end of that hop, and how a stream is cut into blocks shows in neither the windows nor the ring
it leaves. The one exception is a stream of no samples while a window is already due: an empty block
gives that window, and no block gives nothing.
-/

namespace Waterfall

variable {α : Type}

namespace SampleRing

/-- The rings that pushes, extractions and feeds lead to, with the stream that was written. -/
inductive Reached (start : SampleRing α) : List α → SampleRing α → Prop
  | start : Reached start [] start
  | push {stream : List α} {ring : SampleRing α} (block : List α) :
      Reached start stream ring → Reached start (stream ++ block) (ring.push block)
  | extract {stream : List α} {ring : SampleRing α} :
      Reached start stream ring → Reached start stream ring.extract?.2
  | feed {stream : List α} {ring : SampleRing α} (block : List α) :
      Reached start stream ring → Reached start (stream ++ block) (ring.feed block).2

/-- What every ring that was reached keeps from the ring it started from. -/
structure Continues (silence : α) (start : SampleRing α) (stream : List α) (ring : SampleRing α) :
    Prop where
  holds : ring.Holds silence stream
  stored : ring.Stored
  hop_eq : ring.hop = start.hop
  windowLength_eq : ring.windowLength = start.windowLength

theorem Reached.continues {silence : α} {start ring : SampleRing α} {stream : List α}
    (silent : start.Holds silence []) (stored : start.Stored)
    (reached : Reached start stream ring) : Continues silence start stream ring := by
  induction reached with
  | start => exact ⟨silent, stored, rfl, rfl⟩
  | push block _ ih =>
    exact ⟨ih.holds.push block, ih.stored.push block, ih.hop_eq, ih.windowLength_eq⟩
  | extract _ ih =>
    exact ⟨ih.holds.extract?, ih.stored.extract?, (hop_extract? _).trans ih.hop_eq,
      (windowLength_extract? _).trans ih.windowLength_eq⟩
  | feed block _ ih =>
    exact ⟨ih.holds.feed block, ih.stored.feed block, (hop_feed _ block).trans ih.hop_eq,
      (windowLength_feed _ block).trans ih.windowLength_eq⟩

theorem reached_replay (ring : SampleRing α) (calls : List (RingCall α)) :
    Reached ring (RingEvent.stream (ring.replay calls).1) (ring.replay calls).2 := by
  induction calls using List.reverseRecOn with
  | nil => exact .start
  | append_singleton calls call ih =>
    rw [replay_concat, RingEvent.stream_concat]
    cases call with
    | push block => exact ih.push block
    | extract =>
      obtain early | due := Nat.lt_or_ge (ring.replay calls).2.fresh (ring.replay calls).2.hop
      · simpa only [perform, extract?_of_lt early, RingEvent.block, List.append_nil] using ih
      · simpa only [perform, extract?_of_le due, RingEvent.block, List.append_nil] using ih.extract

/-- After any calls on a fresh ring a window is due exactly when a hop of samples arrived since the
last extraction, and it is the end of the stream. No call on the way is a breach. -/
theorem windows_of_replay {silence : α} {windowLength : Nat} {overlap : Float32}
    {ring : SampleRing α} (nonempty : 1 ≤ windowLength)
    (allocated : allocate silence windowLength overlap = .ok ring) (calls : List (RingCall α)) :
    ∃ events after, ring.replay calls = (events, after) ∧
      ring.state.replay calls = .ok (events, after.state) ∧
      after.samplesUntilWindow = ring.hop - (RingEvent.fresh events).length ∧
      (after.extract?.1.isSome ↔ ring.hop ≤ (RingEvent.fresh events).length) ∧
      ∀ window, after.extract?.1 = some window →
        window.length = windowLength ∧
        window.samples = streamWindow silence windowLength (RingEvent.stream events) ∧
        window.copyInto windowLength = .ok window.samples := by
  obtain ⟨created, stored⟩ := stored_of_allocate allocated
  have silent : ring.Holds silence [] := created ▸ holds_create silence windowLength overlap
  have unread : ring.fresh = 0 := created ▸ rfl
  have length : ring.windowLength = windowLength := created ▸ rfl
  have continues := (reached_replay ring calls).continues silent stored
  have fresh := fresh_replay unread calls
  have guarded := RingState.replay_state stored calls
  generalize ring.replay calls = outcome at continues fresh guarded ⊢
  obtain ⟨events, after⟩ := outcome
  dsimp only at continues fresh guarded
  have full := continues.windowLength_eq.trans length
  refine ⟨events, after, rfl, guarded, ?_, ?_, ?_⟩
  · rw [samplesUntilWindow, continues.hop_eq, fresh]
  · rw [isSome_extract?_iff, continues.hop_eq, fresh]
  · intro window extracted
    obtain rfl := eq_newest_of_extract? extracted
    have window_length : after.newest.length = windowLength := by
      rw [length_newest after (full ▸ nonempty), full]
    refine ⟨window_length, ?_, ?_⟩
    · rw [continues.holds.samples_newest (full ▸ nonempty), full]
    · rw [← window_length]
      exact Window.copyInto_length _

/-- A push of nine samples into a ring of six, whose windows have four samples and share two: the
window that is due has the last four. -/
theorem windows_of_long_push :
    1 ≤ 4 ∧ allocate 0 4 (Float32.ofBits 0x3f000000) =
        .ok (create 0 4 (Float32.ofBits 0x3f000000)) ∧
      ∃ events after, (create 0 4 (Float32.ofBits 0x3f000000)).replay
          [.push [1, 2, 3, 4, 5, 6, 7, 8, 9]] = (events, after) ∧
        ∃ window, after.extract?.1 = some window ∧ window.samples = [6, 7, 8, 9] := by
  have hop : (create 0 4 (Float32.ofBits 0x3f000000)).hop = 2 := by decide +kernel
  have allocated : allocate 0 4 (Float32.ofBits 0x3f000000) =
      .ok (create 0 4 (Float32.ofBits 0x3f000000)) := allocate_of_lt 0 (by decide +kernel)
  obtain ⟨events, after, replayed, _, _, due, windows⟩ := windows_of_replay (by decide) allocated
    [.push [1, 2, 3, 4, 5, 6, 7, 8, 9]]
  have events_eq : events = [.pushed [1, 2, 3, 4, 5, 6, 7, 8, 9]] :=
    (congrArg Prod.fst replayed).symm
  subst events_eq
  rw [hop] at due
  obtain ⟨window, extracted⟩ := Option.isSome_iff_exists.mp (due.mpr (by decide))
  refine ⟨by decide, allocated, _, after, replayed, window, extracted, ?_⟩
  rw [(windows window extracted).2.1]
  decide

/-- A feed on any ring that calls lead to gives the window that was already due and one for every
hop its block completes, and carries the other fresh samples over. It ends, and nothing on the way
is a breach. How a stream is cut into blocks is not observable afterwards, since both the windows
and the ring are the same, unless a window was due and one of the two ways has no block. -/
theorem windows_of_feed {silence : α} {windowLength : Nat} {overlap : Float32}
    {start ring : SampleRing α} {stream : List α} (nonempty : 1 ≤ windowLength)
    (allocated : allocate silence windowLength overlap = .ok start)
    (reached : Reached start stream ring) :
    (∀ block : List α,
      let due := if start.hop ≤ ring.fresh then [streamWindow silence windowLength stream] else []
      let fresh := if start.hop ≤ ring.fresh then 0 else ring.fresh
      ∃ windows after, ring.feed block = (windows, after) ∧
        ring.state.feed (block.length + 1) block = .ok (some (windows, after.state)) ∧
        windows.map Window.samples =
          due ++ hopWindows silence windowLength start.hop fresh stream block ∧
        windows.length = due.length + (fresh + block.length) / start.hop ∧
        after.fresh = (fresh + block.length) % start.hop) ∧
    ∀ first second : List (List α), first.flatten = second.flatten →
      (ring.feedAll first = ring.feedAll second ↔
        ring.fresh < start.hop ∨ (first = [] ↔ second = [])) := by
  obtain ⟨created, stored⟩ := stored_of_allocate allocated
  have silent : start.Holds silence [] := created ▸ holds_create silence windowLength overlap
  have length : start.windowLength = windowLength := created ▸ rfl
  have continues := reached.continues silent stored
  have full := continues.windowLength_eq.trans length
  refine ⟨?_, ?_⟩
  · intro block due fresh
    have samples := samples_feed_any continues.holds (full ▸ nonempty) block
    rw [continues.hop_eq, full] at samples
    refine ⟨_, _, rfl, RingState.feed_state continues.stored (Nat.lt_succ_self _), samples, ?_, ?_⟩
    · rw [← List.length_map (f := Window.samples), samples, List.length_append, hopWindows,
        List.length_map, List.length_range]
    · rw [fresh_feed_any, continues.hop_eq]
  · intro first second same
    rw [← continues.hop_eq]
    exact feedAll_eq_iff continues.stored same

/-- A window of four samples that share two is due after a push of three. A feed of five more gives
it, and the two windows that the five complete. -/
theorem windows_of_feed_while_due :
    1 ≤ 4 ∧ allocate 0 4 (Float32.ofBits 0x3f000000) =
        .ok (create 0 4 (Float32.ofBits 0x3f000000)) ∧
      Reached (create 0 4 (Float32.ofBits 0x3f000000)) [1, 2, 3]
        ((create 0 4 (Float32.ofBits 0x3f000000)).push [1, 2, 3]) ∧
      (((create 0 4 (Float32.ofBits 0x3f000000)).push [1, 2, 3]).feed
        [4, 5, 6, 7, 8]).1.map Window.samples = [[0, 1, 2, 3], [2, 3, 4, 5], [4, 5, 6, 7]] := by
  have hop : (create 0 4 (Float32.ofBits 0x3f000000)).hop = 2 := by decide +kernel
  have allocated : allocate 0 4 (Float32.ofBits 0x3f000000) =
      .ok (create 0 4 (Float32.ofBits 0x3f000000)) := allocate_of_lt 0 (by decide +kernel)
  have reached : Reached (create 0 4 (Float32.ofBits 0x3f000000)) [1, 2, 3]
      ((create 0 4 (Float32.ofBits 0x3f000000)).push [1, 2, 3]) := Reached.start.push [1, 2, 3]
  obtain ⟨windows, after, fed, _, samples, _⟩ :=
    (windows_of_feed (by decide) allocated reached).1 [4, 5, 6, 7, 8]
  refine ⟨by decide, allocated, reached, ?_⟩
  rw [fed, samples, hop]
  decide

/-- The exception is real: while a window is due, feeding no block gives no window, but feeding one
empty block, which is the same stream, gives the window. -/
theorem empty_block_differs_from_no_block :
    allocate 0 1 (Float32.ofBits 0) = .ok (create 0 1 (Float32.ofBits 0)) ∧
      Reached (create 0 1 (Float32.ofBits 0)) [7] ((create 0 1 (Float32.ofBits 0)).push [7]) ∧
      ¬∀ first second : List (List Nat), first.flatten = second.flatten →
        (((create 0 1 (Float32.ofBits 0)).push [7]).feedAll first).1.map Window.samples =
          (((create 0 1 (Float32.ofBits 0)).push [7]).feedAll second).1.map Window.samples := by
  have hop : (create 0 1 (Float32.ofBits 0)).hop = 1 := by decide +kernel
  have allocated : allocate 0 1 (Float32.ofBits 0) = .ok (create 0 1 (Float32.ofBits 0)) :=
    allocate_of_lt 0 (by decide +kernel)
  refine ⟨allocated, Reached.start.push [7], ?_⟩
  intro same
  have stored := (stored_of_allocate allocated).2.push [7]
  have due : ((create 0 1 (Float32.ofBits 0)).push [7]).hop ≤
      ((create 0 1 (Float32.ofBits 0)).push [7]).fresh := by
    rw [hop_push, hop]
    decide
  have equal := same [] [[]] rfl
  rw [feedAll_cons stored, feed_extract?, extract?_of_le due] at equal
  cases equal

end SampleRing

end Waterfall

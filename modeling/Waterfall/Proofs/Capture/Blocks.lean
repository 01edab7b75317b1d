import Waterfall.Proofs.Capture.Averages
import Waterfall.Proofs.Mailbox.Offers
import Waterfall.Proofs.SampleRing.Guarded

/-! # Device blocks of any length

The callback cuts a device block into parts, averages each part into a scratch block of a fixed size
and feeds it to the ring. Here the scratch block is a list of cells, of which a part may only use as
many as there are, and the ring's accesses are guarded. None of the checks fails: a part has no more
frames than the scratch block has cells, and every window has the length of the mailbox's buffers.
The parts end between two frames and the ring does not see where a stream is cut, so the block might
as well have been averaged and fed in one piece, and so might the blocks of several callbacks.
-/

namespace Waterfall

namespace Word

/-- The quotient of a division, provided that there is a divisor. -/
def quotient (value divisor : Nat) : Except Breach Nat :=
  if divisor = 0 then .error .zeroDivisor else .ok (value / divisor)

theorem quotient_of_pos {value divisor : Nat} (pos : 0 < divisor) :
    quotient value divisor = .ok (value / divisor) := if_neg (Nat.ne_of_gt pos)

end Word

/-- The fields of the callback's state as a machine holds them, with the scratch block. -/
structure CaptureState where
  ring : RingState Float32
  mailbox : Mailbox Float32
  monitor : Option Capture.Monitor
  channels : Nat
  scratch : List Float32

namespace CaptureState

/-- Carry out steps one after the other, and return all windows that they offer; without an answer
if one of them has none. -/
def sequence {α : Type}
    (step : CaptureState → α → Except Breach (Option (List (Window Float32) × CaptureState)))
    (state : CaptureState) :
    List α → Except Breach (Option (List (Window Float32) × CaptureState))
  | [] => return some ([], state)
  | item :: rest => do
    match ← step state item with
    | none => return none
    | some (windows, next) =>
      match ← sequence step next rest with
      | none => return none
      | some (others, last) => return some (windows ++ others, last)

/-- Average a part of a block into the first cells of the scratch block, feed them to the ring and
the monitor, and offer the windows that become due, which are returned. -/
def processPart (state : CaptureState) (part : List Float32) :
    Except Breach (Option (List (Window Float32) × CaptureState)) := do
  let frames ← Word.quotient part.length state.channels
  let cells ← run state.scratch 0 frames
  let mono ← Capture.downmix state.channels part cells
  let scratch ← overwrite state.scratch 0 frames mono
  match ← state.ring.feed (mono.length + 1) mono with
  | none => return none
  | some (windows, ring) =>
    let (_, mailbox) ← state.mailbox.offerAll windows
    return some (windows,
      { state with ring, mailbox, scratch, monitor := state.monitor.map (·.push mono) })

/-- Process a device block part by part. -/
def process (state : CaptureState) (block : List Float32) :
    Except Breach (Option (List (Window Float32) × CaptureState)) := do
  let size ← Word.mul state.channels Capture.maxBlockFrames
  if size = 0 then
    throw .noChannels
  sequence processPart state (chunks size block)

end CaptureState

namespace Capture

variable {capture : Capture} {windowLength : Nat}

/-- The fields of the callback's state as a machine holds them. -/
def state (capture : Capture) (scratch : List Float32) : CaptureState where
  ring := capture.ring.state
  mailbox := capture.mailbox
  monitor := capture.monitor
  channels := capture.channels
  scratch := scratch

/-- Two portions are queued as one. -/
theorem Monitor.push_append (monitor : Monitor) (first second : List Float32) :
    monitor.push (first ++ second) = (monitor.push first).push second := by
  simp only [push, List.take_append, List.append_assoc, List.length_append, List.length_take]
  congr 4
  omega

/-- No window is due, the ring holds a stream and could be stored, and the mailbox has buffers for
the windows. -/
structure Ready (windowLength : Nat) (capture : Capture) : Prop where
  holds : ∃ stream, capture.ring.Holds 0 stream
  stored : capture.ring.Stored
  early : capture.ring.fresh < capture.ring.hop
  length_eq : capture.ring.windowLength = windowLength
  sized : capture.mailbox.Sized windowLength

/-- What was accepted is what the ring makes of it, whatever the mailbox and the monitor keep. -/
theorem Ready.accept (ready : capture.Ready windowLength) (nonempty : 1 ≤ windowLength)
    (mono : List Float32) :
    ∃ verdicts mailbox, capture.mailbox.offerAll (capture.ring.feed mono).1 =
        .ok (verdicts, mailbox) ∧
      let after : Capture :=
        { capture with
          ring := (capture.ring.feed mono).2
          mailbox
          monitor := capture.monitor.map (·.push mono) }
      capture.accept mono = .ok after ∧ after.Ready windowLength := by
  obtain ⟨stream, holds⟩ := ready.holds
  have fit : ∀ window ∈ (capture.ring.feed mono).1, window.length = windowLength := by
    intro window member
    rw [← ready.length_eq] at nonempty ⊢
    exact SampleRing.length_of_mem_feed holds nonempty mono window member
  obtain ⟨verdicts, mailbox, offered, sized⟩ := ready.sized.offerAll fit
  refine ⟨verdicts, mailbox, offered, ?_, ⟨_, holds.feed mono⟩, ready.stored.feed mono, ?_, ?_,
    sized⟩
  · rw [Capture.accept]
    dsimp only
    rw [offered]
    rfl
  · dsimp only
    rw [SampleRing.fresh_feed ready.early, SampleRing.hop_feed]
    exact Nat.mod_lt _ capture.ring.hop_pos
  · exact (SampleRing.windowLength_feed _ mono).trans ready.length_eq

/-- Feeding nothing changes nothing. -/
theorem Ready.feed_nil (ready : capture.Ready windowLength) :
    capture.ring.feed [] = ([], capture.ring) := by
  have early := ready.early
  rw [SampleRing.feed_of_lt early, SampleRing.push_nil]
  rw [SampleRing.samplesUntilWindow, List.length_nil]
  omega

/-- Accepting nothing changes nothing. -/
theorem Ready.accept_nil (ready : capture.Ready windowLength) :
    capture.accept [] = .ok capture := by
  have queued : capture.monitor.map (·.push []) = capture.monitor := by
    cases capture.monitor with
    | none => rfl
    | some monitor => simp [Monitor.push]
  rw [Capture.accept, ready.feed_nil, queued]
  rfl

/-- Two portions are accepted as one. -/
theorem Ready.accept_append (ready : capture.Ready windowLength) (nonempty : 1 ≤ windowLength)
    (first second : List Float32) :
    capture.accept (first ++ second) = capture.accept first >>= (·.accept second) := by
  obtain ⟨verdicts, mailbox, offered, accepted, _⟩ := ready.accept nonempty first
  have queued : capture.monitor.map (·.push (first ++ second)) =
      (capture.monitor.map (·.push first)).map (·.push second) := by
    rw [Option.map_map]
    congr 1
    funext monitor
    exact monitor.push_append first second
  rw [accepted, ok_bind, Capture.accept, Capture.accept, SampleRing.feed_append ready.stored]
  dsimp only
  rw [Mailbox.offerAll_append offered, queued]
  cases mailbox.offerAll ((capture.ring.feed first).2.feed second).1 <;> rfl

/-- Parts are accepted as the concatenation of their averages. -/
theorem Ready.foldlM_processPart (ready : capture.Ready windowLength)
    (nonempty : 1 ≤ windowLength) (parts : List (List Float32)) :
    parts.foldlM processPart capture =
      capture.accept (parts.flatMap (averages capture.channels)) := by
  induction parts generalizing capture with
  | nil => exact ready.accept_nil.symm
  | cons part rest ih =>
    obtain ⟨verdicts, mailbox, offered, accepted, next_ready⟩ :=
      ready.accept nonempty (averages capture.channels part)
    rw [List.foldlM_cons, List.flatMap_cons, ready.accept_append nonempty, processPart, accepted,
      ok_bind, ok_bind]
    exact ih next_ready

/-- A step of the machine that feeds a portion to the ring and offers the windows that are due. -/
structure Feeds (windowLength : Nat) (mono : List Float32) (capture next : Capture)
    (result : Except Breach (Option (List (Window Float32) × CaptureState))) : Prop where
  ran : ∃ used, used.length = maxBlockFrames ∧
    result = .ok (some ((capture.ring.feed mono).1, next.state used))
  ring_eq : next.ring = (capture.ring.feed mono).2
  channels_eq : next.channels = capture.channels
  ready : next.Ready windowLength

/-- Steps that feed portions one after the other feed their concatenation. -/
theorem feeds_sequence {α : Type} {channels : Nat} {mono : α → List Float32}
    {plain : Capture → α → Except Breach Capture}
    {step : CaptureState → α → Except Breach (Option (List (Window Float32) × CaptureState))}
    {items : List α}
    (each : ∀ item ∈ items, ∀ (capture : Capture) (scratch : List Float32),
      capture.Ready windowLength → capture.channels = channels → scratch.length = maxBlockFrames →
      ∃ next, plain capture item = .ok next ∧
        Feeds windowLength (mono item) capture next (step (capture.state scratch) item))
    (ready : capture.Ready windowLength) (channels_eq : capture.channels = channels)
    {scratch : List Float32} (cells : scratch.length = maxBlockFrames) :
    ∃ next, items.foldlM plain capture = .ok next ∧
      Feeds windowLength (items.flatMap mono) capture next
        (CaptureState.sequence step (capture.state scratch) items) := by
  induction items generalizing capture scratch with
  | nil =>
    refine ⟨capture, rfl, ⟨scratch, cells, ?_⟩, ?_, rfl, ready⟩
    · rw [List.flatMap_nil, ready.feed_nil]
      rfl
    · rw [List.flatMap_nil, ready.feed_nil]
  | cons item rest ih =>
    obtain ⟨first, others⟩ := List.forall_mem_cons.mp each
    obtain ⟨middle, ran, feeds⟩ := first capture scratch ready channels_eq cells
    obtain ⟨used, used_cells, stepped⟩ := feeds.ran
    obtain ⟨last, ran_rest, feeds_rest⟩ :=
      ih others feeds.ready (feeds.channels_eq.trans channels_eq) used_cells
    obtain ⟨left, left_cells, stepped_rest⟩ := feeds_rest.ran
    refine ⟨last, ?_, ⟨left, left_cells, ?_⟩, ?_, feeds_rest.channels_eq.trans feeds.channels_eq,
      feeds_rest.ready⟩
    · rw [List.foldlM_cons, ran]
      exact ran_rest
    · rw [CaptureState.sequence, stepped, ok_bind]
      dsimp only
      rw [stepped_rest, List.flatMap_cons, SampleRing.feed_append ready.stored, feeds.ring_eq]
      rfl
    · rw [feeds_rest.ring_eq, feeds.ring_eq, List.flatMap_cons,
        SampleRing.feed_append ready.stored]

/-- A part uses no more cells than the scratch block has, and overwrites all that it uses. -/
theorem Ready.processPart_feeds (ready : capture.Ready windowLength)
    (nonempty : 1 ≤ windowLength) (channels_pos : 0 < capture.channels) {part : List Float32}
    (short : part.length / capture.channels ≤ maxBlockFrames) {scratch : List Float32}
    (cells : scratch.length = maxBlockFrames) :
    ∃ next, capture.processPart part = .ok next ∧
      Feeds windowLength (averages capture.channels part) capture next
        ((capture.state scratch).processPart part) := by
  have length := length_averages capture.channels part
  have room : ((scratch.take (part.length / capture.channels)).drop 0).length =
      part.length / capture.channels := by
    rw [List.drop_zero, List.length_take]
    omega
  have averaged := downmix_of_length channels_pos room
  rw [Capture.processPart]
  generalize averages capture.channels part = mono at length averaged ⊢
  obtain ⟨verdicts, mailbox, offered, accepted, next_ready⟩ := ready.accept nonempty mono
  refine ⟨_, accepted, ⟨splice scratch 0 mono, ?_, ?_⟩, rfl, rfl, next_ready⟩
  · rw [length_splice (by omega), cells]
  · have covers : mono.length = part.length / capture.channels - 0 := length
    rw [CaptureState.processPart]
    dsimp only [state]
    rw [Word.quotient_of_pos channels_pos, ok_bind, run_of_le (Nat.zero_le _) (by omega), ok_bind,
      averaged, ok_bind, overwrite_of_le (Nat.zero_le _) (by omega) covers, ok_bind,
      RingState.feed_state ready.stored (Nat.lt_succ_self _), ok_bind]
    dsimp only
    rw [offered]
    rfl

/-- A block is fed as the averages of all its frames. -/
theorem Ready.process_feeds (ready : capture.Ready windowLength) (nonempty : 1 ≤ windowLength)
    (channels_pos : 0 < capture.channels)
    (fits : capture.channels * maxBlockFrames < Word.countLimit) (block : List Float32)
    {scratch : List Float32} (cells : scratch.length = maxBlockFrames) :
    ∃ next, capture.process block = .ok next ∧
      capture.accept (averages capture.channels block) = .ok next ∧
      Feeds windowLength (averages capture.channels block) capture next
        ((capture.state scratch).process block) := by
  let size := capture.channels * maxBlockFrames
  have size_pos : 0 < size := Nat.mul_pos channels_pos (by decide)
  have parts := flatMap_averages_chunks channels_pos size_pos (Nat.dvd_mul_right _ _) block
  have counted : Word.mul capture.channels maxBlockFrames = .ok size := Word.mul_of_lt fits
  have each : ∀ part ∈ chunks size block, ∀ (other : Capture) (scratch : List Float32),
      other.Ready windowLength → other.channels = capture.channels →
      scratch.length = maxBlockFrames →
      ∃ next, other.processPart part = .ok next ∧
        Feeds windowLength (averages capture.channels part) other next
          ((other.state scratch).processPart part) := by
    intro part member other scratch other_ready same cells
    rw [← same] at channels_pos ⊢
    apply other_ready.processPart_feeds nonempty channels_pos _ cells
    have length_le := length_le_of_mem_chunks member
    rw [same]
    exact Nat.div_le_of_le_mul length_le
  obtain ⟨next, ran, feeds⟩ := feeds_sequence each ready rfl cells
  have whole := ready.foldlM_processPart nonempty (chunks size block)
  rw [parts] at feeds whole
  refine ⟨next, ?_, whole.symm.trans ran, ?_⟩
  · rw [Capture.process, counted, ok_bind, if_neg (Nat.ne_of_gt size_pos)]
    exact ran
  · have sequenced : (capture.state scratch).process block =
        CaptureState.sequence CaptureState.processPart (capture.state scratch)
          (chunks size block) := by
      rw [CaptureState.process]
      dsimp only [state]
      rw [counted, ok_bind, if_neg (Nat.ne_of_gt size_pos)]
    rw [sequenced]
    exact feeds

/-- The states of a callback: it processes blocks, and between two of them the mailbox and the
monitor change at their other ends. -/
inductive Reached (windowLength : Nat) (start : Capture) : Capture → Prop
  | start : Reached windowLength start start
  | process {capture next : Capture} (block : List Float32) :
      Reached windowLength start capture → capture.process block = .ok next →
      Reached windowLength start next
  | exchange {capture : Capture} {mailbox : Mailbox Float32} (monitor : Option Monitor) :
      Reached windowLength start capture → mailbox.Sized windowLength →
      Reached windowLength start { capture with mailbox, monitor }

/-- Every state that is reached is ready for a block. -/
theorem Reached.ready {start : Capture} (reached : Reached windowLength start capture)
    (nonempty : 1 ≤ windowLength) (channels_pos : 0 < start.channels)
    (fits : start.channels * maxBlockFrames < Word.countLimit)
    (start_ready : start.Ready windowLength) :
    capture.Ready windowLength ∧ capture.channels = start.channels := by
  induction reached with
  | start => exact ⟨start_ready, rfl⟩
  | process block _ ran ih =>
    obtain ⟨ready, same⟩ := ih
    rw [← same] at channels_pos fits ⊢
    obtain ⟨next, processed, _, feeds⟩ := ready.process_feeds nonempty channels_pos fits block
      (List.length_replicate (a := (0 : Float32)))
    rw [processed] at ran
    cases ran
    exact ⟨feeds.ready, feeds.channels_eq⟩
  | exchange monitor _ sized ih =>
    obtain ⟨ready, same⟩ := ih
    exact ⟨⟨ready.holds, ready.stored, ready.early, ready.length_eq, sized⟩, same⟩

end Capture

end Waterfall

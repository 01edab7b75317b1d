import Waterfall.Analysis.Mailbox
import Waterfall.Capture.Samples
import Waterfall.Chunks

/-! # The capture callback

The device hands over interleaved blocks of any length. The callback averages them in parts of a
bounded number of frames, feeds the mono samples to the sample ring and offers every window that
becomes due to the mailbox. A monitor queue, if there is one, receives the same mono samples as far
as it has room.
-/

namespace Waterfall.Capture

/-- The most frames averaged at a time. -/
def maxBlockFrames : Nat := 4096

/-- The samples on their way to the output device, in a queue with room for `capacity` of them. -/
structure Monitor where
  capacity : Nat
  queued : List Float32 := []

namespace Monitor

/-- An empty queue, which must have room for at least one sample and must fit into memory. -/
def create (capacity : Nat) : Except Breach Monitor :=
  if capacity = 0 then .error .emptyQueue
  else if capacity * Word.sampleBytes < Word.addressLimit then .ok { capacity }
  else .error .hugeQueue

/-- Queue samples as far as there is room. -/
def push (monitor : Monitor) (samples : List Float32) : Monitor :=
  { monitor with
    queued := monitor.queued ++ samples.take (monitor.capacity - monitor.queued.length) }

/-- Everything queued, which leaves the queue empty. -/
def drain (monitor : Monitor) : List Float32 × Monitor :=
  (monitor.queued, { monitor with queued := [] })

end Monitor

end Capture

/-- The state of the capture callback. -/
structure Capture where
  ring : SampleRing Float32
  mailbox : Mailbox Float32
  monitor : Option Capture.Monitor
  channels : Nat

namespace Capture

/-- Feed mono samples to the ring and the monitor, and offer every window that becomes due. -/
def accept (capture : Capture) (mono : List Float32) : Except Breach Capture := do
  let (windows, ring) := capture.ring.feed mono
  let (_, mailbox) ← capture.mailbox.offerAll windows
  return { capture with ring, mailbox, monitor := capture.monitor.map (·.push mono) }

/-- Average one part of a block and accept the result. -/
def processPart (capture : Capture) (part : List Float32) : Except Breach Capture :=
  capture.accept (averages capture.channels part)

/-- Process one device block of interleaved samples, in parts of at most `maxBlockFrames` frames. -/
def process (capture : Capture) (block : List Float32) : Except Breach Capture := do
  let size ← Word.mul capture.channels maxBlockFrames
  if size = 0 then
    throw .noChannels
  (chunks size block).foldlM processPart capture

end Capture

end Waterfall

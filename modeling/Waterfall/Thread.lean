import Waterfall.Fault

/-! # Threads

A thread runs until it is stopped or ends by itself. What it ended with is handed out once, to the
first who stops it.
-/

namespace Waterfall

/-- Whether a thread still runs, and with what it ended. -/
inductive ThreadStatus
  | running
  /-- Ended, and nobody asked for the result yet. -/
  | ended (result : Except Failure Unit)
  /-- Ended, and the result was handed out. -/
  | joined

namespace ThreadStatus

/-- Whether the thread has ended. -/
def isFinished : ThreadStatus → Bool
  | running => false
  | ended _ | joined => true

/-- What is still to be handed out about an ended thread. -/
def outcome : ThreadStatus → Except Failure Unit
  | ended result => result
  | running | joined => .ok ()

end ThreadStatus

end Waterfall

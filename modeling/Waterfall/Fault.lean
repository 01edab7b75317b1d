import Waterfall.Duration

/-! # Faults

Two things can end an operation. A `Failure` is an outcome the program reports: a rejected
configuration, a device that refuses, a broken pipeline invariant. A `Breach` is a caller that broke
the contract of an internal operation, such as a row of the wrong length or a count that does not
fit a machine word; no operation recovers from one.
-/

namespace Waterfall

/-- An invariant of the pipeline that turned out to be broken while it ran. -/
inductive Violation
  /-- The guard of frame slot `slot` was still unsignaled after `waited`. -/
  | guardTimeout (slot : Nat) (waited : Duration)
  /-- No surface image became presentable within `waited`. -/
  | acquireTimeout (waited : Duration)
  /-- A row of `actual` points was pushed into a history of `expected`-point rows. -/
  | rowLength (expected actual : Nat)
  /-- A frame was recorded or presented without an acquired image. -/
  | noAcquiredImage
deriving DecidableEq, Repr

namespace Violation

/-- The violation in words. -/
def text : Violation → String
  | guardTimeout slot waited =>
    s!"in-flight guard of frame slot {slot} not signaled within {waited.text}"
  | acquireTimeout waited => s!"no presentable surface image within {waited.text}"
  | rowLength expected actual =>
    s!"row of {actual} points pushed into a history of {expected}-point rows"
  | noAcquiredImage => "frame recorded or presented without an acquired surface image"

/-- The name of a kind of violation. -/
def kind : Violation → String
  | guardTimeout _ _ => "GuardTimeout"
  | acquireTimeout _ => "AcquireTimeout"
  | rowLength _ _ => "RowLength"
  | noAcquiredImage => "NoAcquiredImage"

end Violation

/-- An outcome that ends the session. -/
inductive Failure
  /-- A configuration value was rejected. -/
  | config (reason : String)
  /-- The audio device could not be opened or started. -/
  | audio (reason : String)
  /-- The graphics device could not create a required object. -/
  | resource (reason : String)
  /-- Rebuilding the surface failed `attempts` times, the last time for the reason `last`. -/
  | recreateExhausted (attempts : Nat) (last : String)
  /-- A pipeline invariant was broken. -/
  | violation (cause : Violation)
  /-- The thread `name` could not be started. -/
  | spawn (name reason : String)
  /-- The thread `name` ended in a breach. -/
  | threadPanicked (name : String)
deriving DecidableEq, Repr

namespace Failure

/-- The failure in words. -/
def text : Failure → String
  | config reason => s!"invalid configuration: {reason}"
  | audio reason => s!"audio device error: {reason}"
  | resource reason => s!"graphics resource creation failed: {reason}"
  | recreateExhausted attempts last =>
    s!"surface recreation failed after {attempts} attempts: {last}"
  | violation cause => s!"protocol violation: {cause.text}"
  | spawn name reason => s!"failed to spawn {name} thread: {reason}"
  | threadPanicked name => s!"{name} thread panicked"

/-- The name of a kind of failure. -/
def kind : Failure → String
  | config _ => "Config"
  | audio _ => "Audio"
  | resource _ => "Resource"
  | recreateExhausted _ _ => "RecreateExhausted"
  | violation cause => "Protocol." ++ cause.kind
  | spawn _ _ => "Spawn"
  | threadPanicked _ => "ThreadPanicked"

/-- The texts of a failure and of what caused it, outermost first. -/
def chain : Failure → List String
  | failure@(violation cause) => [failure.text, cause.text]
  | failure@(spawn _ reason) => [failure.text, reason]
  | failure => [failure.text]

/-- The reason a thread cannot be started while the system has no room for another one. -/
def threadsExhausted : String := "Resource temporarily unavailable (os error 11)"

end Failure

/-- A broken contract between internal operations. -/
inductive Breach
  /-- A scratch row does not have one point per bin. -/
  | rowBinMismatch
  /-- A transform was given a window of the wrong length. -/
  | transformInput
  /-- A transform was given a bin buffer of the wrong length. -/
  | transformOutput
  /-- A taper was given a window of the wrong length. -/
  | taperInput
  /-- A taper was given an output buffer of the wrong length. -/
  | taperOutput
  /-- A history without rows or without points in a row. -/
  | emptyLayout
  /-- A count that does not fit its machine word, or more memory than one allocation can have. -/
  | overflow
  /-- More memory than the system grants, which aborts the program. -/
  | outOfMemory
  /-- Samples were copied into a buffer of another length. -/
  | copyLength
  /-- A position outside a list. -/
  | outOfRange
  /-- Interleaved frames of zero channels. -/
  | noChannels
  /-- A taper and a transform for different window lengths. -/
  | taperMismatch
  /-- A queue with no room for any sample. -/
  | emptyQueue
  /-- A queue with more room than the system grants. -/
  | hugeQueue
  /-- A remainder by zero. -/
  | zeroDivisor
  /-- The graphics device broke down inside a call. -/
  | device
deriving DecidableEq, Repr

/-- What a breach is reported as, if anything is said about it. -/
def Breach.text? : Breach → Option String
  | rowBinMismatch => "row length must match bin count"
  | transformInput => "transform input length mismatch"
  | transformOutput => "transform output length mismatch"
  | taperInput => "window input length mismatch"
  | taperOutput => "window output length mismatch"
  | emptyLayout => "layout.rows > 0 && layout.row_len > 0"
  | overflow => "overflow"
  | _ => none

/-- What ends an operation early. -/
inductive Fault
  | failure (cause : Failure)
  | breach (cause : Breach)
deriving DecidableEq, Repr

/-- Fail with a broken pipeline invariant. -/
def Fault.violation (cause : Violation) : Fault := .failure (.violation cause)

end Waterfall

import Waterfall.Fault
import Waterfall.Scene

/-! # Presentation settings

The settings of the window and of the frame loop, and the reasons to reject them, in the order in
which they are checked.
-/

namespace Waterfall

/-- The settings of the window and of the frame loop. -/
structure RenderConfig where
  windowWidth : Nat := 1000
  windowHeight : Nat := 600
  /-- Frames the device may work on ahead of presentation. -/
  framesInFlight : Nat := 2
  /-- The longest wait for a frame slot's guard. -/
  guardTimeout : Duration := .ofMilliseconds 2000
  /-- The longest wait for a presentable image. -/
  acquireTimeout : Duration := .ofMilliseconds 2000
  /-- Attempts at one surface rebuild, the first one included. -/
  maxRecreateAttempts : Nat := 3
  scene : Scene := {}
deriving DecidableEq, Repr, Inhabited

namespace RenderConfig

/-- Why presentation settings are rejected. -/
inductive Rejection
  | noFramesInFlight
  | noRecreateAttempts
  | zeroTimeout
deriving DecidableEq, Repr

/-- The rejection in words. -/
def Rejection.text : Rejection → String
  | noFramesInFlight => "need at least one frame in flight"
  | noRecreateAttempts => "need at least one surface rebuild attempt"
  | zeroTimeout => "timeouts must be non-zero"

/-- The failure that reports a rejection. -/
def Rejection.toFailure (rejection : Rejection) : Failure := .config rejection.text

/-- Accept the settings or give the first reason to reject them. -/
def validate (config : RenderConfig) : Except Rejection Unit := do
  if config.framesInFlight = 0 then
    throw .noFramesInFlight
  if config.maxRecreateAttempts = 0 then
    throw .noRecreateAttempts
  if config.guardTimeout.nanoseconds = 0 ∨ config.acquireTimeout.nanoseconds = 0 then
    throw .zeroTimeout

end RenderConfig

end Waterfall

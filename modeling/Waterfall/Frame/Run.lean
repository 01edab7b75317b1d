import Waterfall.Frame.Loop

/-! # Running the frame loop

A run is a sequence of passes. Each pass handles the messages that arrived since the one before and
then makes one turn. A run ends when the stop flag is seen between two passes, or when a pass fails,
and in both cases it shuts the loop down; only a breach leaves the loop as it is.
-/

namespace Waterfall

/-- A request to the loop from another thread. -/
inductive RenderControl
  /-- The window changed its size. -/
  | resize (extent : Extent)
  /-- Another scene was chosen. -/
  | select (scene : Scene)
deriving DecidableEq, Repr

/-- What reaches the loop in one pass. -/
structure Pass where
  messages : List RenderControl := []
  moment : Moment

/-- Passes at one moment; the messages arrive before the first of them. -/
def Pass.series (messages : List RenderControl) (moment : Moment) : Nat → List Pass
  | 0 => []
  | count + 1 => ⟨messages, moment⟩ :: List.replicate count ⟨[], moment⟩

namespace FrameLoop

variable {δ : Type} [GraphicsDevice δ]

/-- Handle one message. -/
def handle : RenderControl → LoopM δ Unit
  | .resize extent => resize extent
  | .select scene => selectScene scene

/-- Handle messages in the order of their arrival. -/
def handleAll : List RenderControl → LoopM δ Unit
  | [] => pure ()
  | message :: rest => do
    handle message
    handleAll rest

/-- One pass: the messages, then a turn. -/
def pass (pass : Pass) : LoopM δ TurnOutcome := do
  handleAll pass.messages
  turn pass.moment

omit [GraphicsDevice δ] in
/-- The stop flag was seen. -/
def reportStopped : LoopM δ Unit := do
  onScreen (Screen.report (.renderLoopStopped (← get).frame))

/-- The passes up to the one before which the stop flag is seen. -/
def runPasses : List Pass → LoopM δ Unit
  | [] => reportStopped
  | first :: rest => do
    let _ ← pass first
    runPasses rest

/-- Shut down after a failure, which stays the result even if the shutdown fails too. -/
def shutdownAfter (cause : Failure) : LoopM δ Unit := fun loop =>
  match shutdown loop with
  | .ok () loop => .error (.failure cause) loop
  | .error (.failure second) loop =>
    match onScreen (Screen.report (.shutdownAlsoFailed second.text)) loop with
    | .ok () loop | .error _ loop => .error (.failure cause) loop
  | .error (.breach broken) loop => .error (.breach broken) loop

/-- Shut down after a part of a run, whether it succeeded or failed. -/
def closing (body : LoopM δ Unit) : LoopM δ Unit := fun loop =>
  match body loop with
  | .ok () loop => shutdown loop
  | .error (.failure cause) loop => shutdownAfter cause loop
  | .error (.breach broken) loop => .error (.breach broken) loop

/-- Run the loop until the stop flag is seen after the given passes, or until a pass fails. -/
def run (passes : List Pass) : LoopM δ Unit := closing (runPasses passes)

end FrameLoop

end Waterfall

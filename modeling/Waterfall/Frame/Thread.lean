import Waterfall.Frame.Run
import Waterfall.Thread

/-! # The render thread

The render thread owns the frame loop and runs it. Messages wait in a queue until the next pass. The
thread ends when it is stopped or when a pass fails; the loop is let go of with it.
-/

namespace Waterfall

/-- The thread that runs the frame loop. -/
structure RenderThread (δ : Type) where
  loop : FrameLoop δ
  /-- The messages that the loop has not seen yet. -/
  queued : List RenderControl := []
  status : ThreadStatus := .running

namespace RenderThread

variable {δ : Type} [GraphicsDevice δ]

/-- The name of the thread. -/
def threadName : String := "render"

/-- The failure that reports a render thread that could not be started. -/
def spawnFailure (reason : String) : Failure := .spawn threadName reason

omit [GraphicsDevice δ] in
/-- Queue a message. -/
def send (thread : RenderThread δ) (message : RenderControl) : RenderThread δ :=
  { thread with queued := thread.queued ++ [message] }

/-- Add a notice to those of the loop. -/
def report (loop : FrameLoop δ) (notice : Notice) : FrameLoop δ :=
  { loop with notices := loop.notices ++ [notice] }

/-- The ended thread after its run came to a result. -/
def conclude (thread : RenderThread δ) :
    EStateM.Result Fault (FrameLoop δ) Unit → RenderThread δ
  | .ok () loop => { thread with loop := loop.release, status := .ended (.ok ()) }
  | .error (.failure cause) loop =>
    { thread with
      loop := (report loop (.renderLoopFailed cause.text)).release
      status := .ended (.error cause) }
  | .error (.breach _) loop =>
    { thread with
      loop := loop.release
      status := .ended (.error (.threadPanicked threadName)) }

/-- One pass of a running thread. -/
def step (thread : RenderThread δ) (moment : Moment) : RenderThread δ :=
  match thread.status with
  | .running =>
    match FrameLoop.pass ⟨thread.queued, moment⟩ thread.loop with
    | .ok _ loop => { thread with loop, queued := [] }
    | .error fault loop =>
      { thread with queued := [] }.conclude (FrameLoop.closing (throw fault) loop)
  | _ => thread

/-- At most `count` passes, fewer if the thread ends by itself. -/
def steps (thread : RenderThread δ) (moment : Moment) : Nat → RenderThread δ
  | 0 => thread
  | count + 1 =>
    let thread := thread.step moment
    if thread.status.isFinished then thread else thread.steps moment count

/-- A running thread sees the stop flag and ends its run. -/
def halt (thread : RenderThread δ) : RenderThread δ :=
  match thread.status with
  | .running => thread.conclude (FrameLoop.closing FrameLoop.reportStopped thread.loop)
  | _ => thread

/-- Stop the thread and hand out what it ended with; a second call finds nothing left to report. -/
def stop (thread : RenderThread δ) : Except Failure Unit × RenderThread δ :=
  let thread := thread.halt
  (thread.status.outcome, { thread with status := .joined })

/-- Let go of the thread: it is stopped, and a failure is only reported as a notice. -/
def release (thread : RenderThread δ) : RenderThread δ :=
  match thread.stop with
  | (.ok (), thread) => thread
  | (.error failure, thread) =>
    { thread with loop := report thread.loop (.threadFailed failure.text) }

end RenderThread

end Waterfall

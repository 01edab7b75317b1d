import Waterfall.Analysis.Mailbox
import Waterfall.Analysis.Pipeline
import Waterfall.Notice
import Waterfall.Thread

/-! # The analysis worker

The worker takes windows out of the mailbox, processes them and returns their buffers. It runs until
it is stopped or until a window cannot be published. A buffer is returned even if its window failed;
only a breach, which ends the thread at once, loses it.
-/

namespace Waterfall

/-- The worker with the mailbox it drains and the board it publishes on. -/
structure Worker where
  pipeline : Pipeline
  mailbox : Mailbox Float32
  board : Board
  /-- Windows published so far. -/
  processed : Nat := 0
  status : ThreadStatus := .running
  notices : List Notice := []

namespace Worker

/-- The name of the worker's thread. -/
def threadName : String := "spectrum"

/-- The failure that reports a worker that could not be started. -/
def spawnFailure (reason : String) : Failure := .spawn threadName reason

/-- Process one window that was taken from the mailbox, and return its buffer. -/
def handle (worker : Worker) (window : List Float32) : Worker :=
  match worker.pipeline.process window worker.board with
  | .error _ => { worker with status := .ended (.error (.threadPanicked threadName)) }
  | .ok (pipeline, publication) =>
    let worker := { worker with pipeline, mailbox := worker.mailbox.recycle window }
    match publication with
    | .appended board => { worker with board, processed := worker.processed + 1 }
    | .rejected cause =>
      let failure := Failure.violation cause
      { worker with
        status := .ended (.error failure)
        notices := worker.notices ++ [.workerFailed failure.text] }

/-- One pass of the worker's loop: a running worker handles the latest window, if there is one. -/
def poll (worker : Worker) : Worker :=
  match worker.status with
  | .running =>
    match worker.mailbox.take with
    | (some window, mailbox) => handle { worker with mailbox } window
    | (none, _) => worker
  | _ => worker

/-- Hand a window to the worker. -/
def offer (worker : Worker) (window : Window Float32) : Except Breach (Bool × Worker) := do
  let (accepted, mailbox) ← worker.mailbox.offer window
  return (accepted, { worker with mailbox })

/-- A running worker sees the stop flag and ends its loop. -/
def halt (worker : Worker) : Worker :=
  match worker.status with
  | .running => { worker with
      status := .ended (.ok ())
      notices := worker.notices ++ [.workerStopped worker.processed worker.mailbox.dropped] }
  | _ => worker

/-- Stop the worker and hand out what it ended with; a second call finds nothing left to report. -/
def stop (worker : Worker) : Except Failure Unit × Worker :=
  let worker := worker.halt
  (worker.status.outcome, { worker with status := .joined })

/-- Let go of the worker: it is stopped, and a failure is only reported as a notice. -/
def release (worker : Worker) : Worker :=
  match worker.stop with
  | (.ok (), worker) => worker
  | (.error failure, worker) =>
    { worker with notices := worker.notices ++ [.threadFailed failure.text] }

end Worker

end Waterfall

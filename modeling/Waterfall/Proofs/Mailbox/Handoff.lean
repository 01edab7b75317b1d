import Waterfall.Analysis.Worker
import Waterfall.Proofs.Outcome

/-! # The handoff, one step at a time

Capture and the worker share the mailbox without a lock. An offer and a pass of the worker's loop
are therefore sequences of steps, each of them indivisible, and the steps of both sides may
alternate in any way. A schedule says whose step is next. Left alone, the steps of one side amount
to `Mailbox.offer` and `Worker.poll`.
-/

namespace Waterfall

/-- How far capture is with an offer. -/
inductive Offering
  | idle
  /-- The pool was empty, and the loss is not counted yet. -/
  | refused
  /-- A buffer of the pool holds the window, which is not in the slot yet. -/
  | filled (buffer : List Float32)
  /-- The slot gave a window back, and its loss is not counted yet. -/
  | replaced (stale : List Float32)
  /-- The loss is counted, and the buffer is not back in the pool yet. -/
  | counted (stale : List Float32)

/-- How far the worker is with a pass of its loop. -/
inductive Draining
  /-- About to look at the stop flag. -/
  | watching
  /-- About to look into the slot. -/
  | polling
  | holding (window : List Float32)
  /-- The window was processed, and its buffer is not back in the pool yet. -/
  | processed (window : List Float32) (result : Except Violation Unit)
  /-- The loop has ended. -/
  | ended
  /-- A breach ended the thread, and the buffer it held is lost. -/
  | crashed

namespace Offering

/-- The buffers in the hands of capture. -/
def buffers : Offering → List (List Float32)
  | idle | refused => []
  | filled buffer | replaced buffer | counted buffer => [buffer]

/-- The windows on their way into the slot. -/
def arriving : Offering → List (List Float32)
  | filled buffer => [buffer]
  | idle | refused | replaced _ | counted _ => []

/-- The windows that are neither in the slot nor taken nor counted as lost. -/
def pending : Offering → Nat
  | refused | filled _ | replaced _ => 1
  | idle | counted _ => 0

/-- The buffer that goes back to the pool next. -/
def returning? : Offering → Option (List Float32)
  | counted stale => some stale
  | idle | refused | filled _ | replaced _ => none

theorem length_buffers_of_returning {offering : Offering}
    (returning : offering.returning?.isSome) : offering.buffers.length = 1 := by
  cases offering with
  | counted stale => rfl
  | _ => cases returning

end Offering

namespace Draining

/-- The buffers in the hands of the worker. -/
def buffers : Draining → List (List Float32)
  | holding window | processed window _ => [window]
  | watching | polling | ended | crashed => []

/-- The buffers that were lost with the worker's thread. -/
def lost : Draining → Nat
  | crashed => 1
  | watching | polling | holding _ | processed _ _ | ended => 0

/-- Whether the worker's thread is over. -/
def isFinished : Draining → Bool
  | ended | crashed => true
  | watching | polling | holding _ | processed _ _ => false

/-- The buffer that goes back to the pool next. -/
def returning? : Draining → Option (List Float32)
  | processed window _ => some window
  | watching | polling | holding _ | ended | crashed => none

theorem length_buffers_of_returning {draining : Draining}
    (returning : draining.returning?.isSome) : draining.buffers.length = 1 := by
  cases draining with
  | processed window result => rfl
  | _ => cases returning

end Draining

/-- Capture and the worker with the mailbox between them. -/
structure Handoff where
  worker : Worker
  offering : Offering := .idle
  draining : Draining := .watching
  stopRaised : Bool := false
  /-- The windows that are still to be offered. -/
  upcoming : List (Window Float32)
  /-- The windows whose offer has begun, in order. -/
  offered : List (List Float32) := []
  /-- The windows that the worker took, in order. -/
  taken : List (List Float32) := []

/-- Whose step is next. -/
inductive Turn
  | capture
  | worker
  /-- Somebody raises the stop flag. -/
  | stop
deriving DecidableEq, Repr

namespace Handoff

/-- Nothing has been offered yet, and all buffers are in the pool. -/
def start (pipeline : Pipeline) (board : Board) (windowLength spareWindows : Nat)
    (windows : List (Window Float32)) : Handoff where
  worker := { pipeline, board, mailbox := Mailbox.create 0 windowLength spareWindows }
  upcoming := windows

/-- The mailbox between the two sides. -/
def mailbox (state : Handoff) : Mailbox Float32 := state.worker.mailbox

/-- The same state with another mailbox. -/
def withMailbox (state : Handoff) (mailbox : Mailbox Float32) : Handoff :=
  { state with worker := { state.worker with mailbox } }

/-- All buffers, wherever they are. -/
def buffers (state : Handoff) : List (List Float32) :=
  state.mailbox.spare ++ state.mailbox.latest.toList ++ state.offering.buffers ++
    state.draining.buffers

/-- Begin the offer of a window: a buffer of the pool receives its samples. -/
def beginOffer (state : Handoff) (window : Window Float32) : Except Breach Handoff := do
  match state.mailbox.popSpare with
  | (none, _) => return { state with offering := .refused }
  | (some buffer, mailbox) =>
    let filled ← window.copyInto buffer.length
    return { state.withMailbox mailbox with offering := .filled filled }

/-- The next step of an offer; between two offers, the first step of the next one. -/
def capture (state : Handoff) : Except Breach Handoff :=
  match state.offering with
  | .idle =>
    match state.upcoming with
    | [] => .ok state
    | window :: rest =>
      beginOffer { state with upcoming := rest, offered := state.offered ++ [window.samples] }
        window
  | .refused => .ok { state.withMailbox state.mailbox.countDrop with offering := .idle }
  | .filled buffer =>
    match state.mailbox.deposit buffer with
    | (none, mailbox) => .ok { state.withMailbox mailbox with offering := .idle }
    | (some stale, mailbox) => .ok { state.withMailbox mailbox with offering := .replaced stale }
  | .replaced stale =>
    .ok { state.withMailbox state.mailbox.countDrop with offering := .counted stale }
  | .counted stale => .ok { state.withMailbox (state.mailbox.recycle stale) with offering := .idle }

/-- Process the window that the worker holds. -/
def process (state : Handoff) (window : List Float32) : Handoff :=
  match state.worker.pipeline.process window state.worker.board with
  | .error _ =>
    { state with
      worker.status := .ended (.error (.threadPanicked Worker.threadName))
      draining := .crashed }
  | .ok (pipeline, .appended board) =>
    { state with
      worker := { state.worker with pipeline, board }
      draining := .processed window (.ok ()) }
  | .ok (pipeline, .rejected cause) =>
    { state with
      worker := { state.worker with pipeline }
      draining := .processed window (.error cause) }

/-- Return the buffer of a processed window to the pool. -/
def giveBack (state : Handoff) (window : List Float32) : Handoff :=
  { state.withMailbox (state.mailbox.recycle window) with draining := .watching }

/-- Return the buffer of a processed window, and go on or end with the violation. -/
def settle (state : Handoff) (window : List Float32) (result : Except Violation Unit) : Handoff :=
  let returned := state.giveBack window
  match result with
  | .ok () => { returned with worker.processed := state.worker.processed + 1 }
  | .error cause =>
    let failure := Failure.violation cause
    { returned with
      worker.status := .ended (.error failure)
      worker.notices := state.worker.notices ++ [.workerFailed failure.text]
      draining := .ended }

/-- The next step of the worker. -/
def drain (state : Handoff) : Handoff :=
  match state.draining with
  | .watching =>
    if state.stopRaised then { state with worker := state.worker.halt, draining := .ended }
    else { state with draining := .polling }
  | .polling =>
    match state.mailbox.take with
    | (some window, mailbox) =>
      { state.withMailbox mailbox with
        draining := .holding window
        taken := state.taken ++ [window] }
    | (none, _) => { state with draining := .watching }
  | .holding window => state.process window
  | .processed window result => state.settle window result
  | .ended | .crashed => state

/-- One step of a schedule. -/
def step (state : Handoff) : Turn → Except Breach Handoff
  | .capture => state.capture
  | .worker => .ok state.drain
  | .stop => .ok { state with stopRaised := true }

/-- The steps of a schedule, one after the other. -/
def run (state : Handoff) : List Turn → Except Breach Handoff
  | [] => .ok state
  | turn :: rest => do (← state.step turn).run rest

/-- What every step keeps, and no step breaks off, holds after every schedule. -/
theorem run_keeps {kept : Handoff → Prop}
    (step_keeps : ∀ state turn, kept state → ∃ after, state.step turn = .ok after ∧ kept after)
    {state : Handoff} (holds : kept state) (schedule : List Turn) :
    ∃ after, state.run schedule = .ok after ∧ kept after := by
  induction schedule generalizing state with
  | nil => exact ⟨state, rfl, holds⟩
  | cons turn rest ih =>
    obtain ⟨next, stepped, holds⟩ := step_keeps state turn holds
    obtain ⟨after, ran, holds⟩ := ih holds
    refine ⟨after, ?_, holds⟩
    rw [run, stepped, ok_bind, ran]

/-- Left alone, capture offers the next window as `Mailbox.offer` does. -/
theorem run_capture {state : Handoff} {window : Window Float32} {rest : List (Window Float32)}
    (idle : state.offering = .idle) (upcoming : state.upcoming = window :: rest) :
    ∃ count, state.run (List.replicate count .capture) = (do
      let (_, mailbox) ← state.mailbox.offer window
      return { state.withMailbox mailbox with
        upcoming := rest
        offered := state.offered ++ [window.samples] }) := by
  obtain ⟨worker, offering, draining, stopRaised, all, offered, taken⟩ := state
  obtain ⟨pipeline, ⟨latest, spare, room, dropped⟩, board, processed, status, notices⟩ := worker
  cases idle
  cases upcoming
  cases spare with
  | nil => exact ⟨2, rfl⟩
  | cons buffer spare =>
    by_cases fits : window.length = buffer.length
    · have copied : window.copyInto buffer.length = .ok window.samples := if_pos fits
      cases latest with
      | none =>
        refine ⟨2, ?_⟩
        simp only [List.replicate, run, step, capture, beginOffer, mailbox, withMailbox, copied,
          Mailbox.offer, Mailbox.popSpare, Mailbox.deposit, ok_bind, pure, Except.pure]
      | some stale =>
        refine ⟨4, ?_⟩
        simp only [List.replicate, run, step, capture, beginOffer, mailbox, withMailbox, copied,
          Mailbox.offer, Mailbox.popSpare, Mailbox.deposit, ok_bind, pure, Except.pure]
    · have refused : window.copyInto buffer.length = .error .copyLength := if_neg fits
      refine ⟨1, ?_⟩
      simp only [List.replicate, run, step, capture, beginOffer, mailbox, withMailbox, refused,
          Mailbox.offer, Mailbox.popSpare, Mailbox.deposit, error_bind, pure, Except.pure]

/-- Left alone, a running worker makes a pass of its loop as `Worker.poll` does. -/
theorem run_worker {state : Handoff} (running : state.worker.status = .running)
    (polling : state.draining = .polling) :
    ∃ count after, state.run (List.replicate count .worker) = .ok after ∧
      after.worker = state.worker.poll ∧
      (after.draining = .watching ∨ after.draining.isFinished) := by
  obtain ⟨worker, offering, draining, stopRaised, upcoming, offered, taken⟩ := state
  obtain ⟨pipeline, ⟨latest, spare, room, dropped⟩, board, processed, status, notices⟩ := worker
  cases running
  cases polling
  cases latest with
  | none => exact ⟨1, _, rfl, rfl, .inl rfl⟩
  | some window =>
    refine ⟨3, _, rfl, ?_⟩
    cases outcome : pipeline.process window board with
    | error breach =>
      simp [drain, mailbox, withMailbox, Mailbox.take, process, outcome, Worker.poll, Worker.handle,
        Draining.isFinished]
    | ok result =>
      obtain ⟨pipeline, publication⟩ := result
      cases publication with
      | appended board =>
        simp [drain, mailbox, withMailbox, Mailbox.take, process, outcome, settle, giveBack,
          Worker.poll,
          Worker.handle]
      | rejected cause =>
        simp [drain, mailbox, withMailbox, Mailbox.take, process, outcome, settle, giveBack,
          Worker.poll,
          Worker.handle, Draining.isFinished]

end Handoff

end Waterfall

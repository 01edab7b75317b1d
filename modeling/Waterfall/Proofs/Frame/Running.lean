import Waterfall.Frame.Run
import Waterfall.Proofs.Frame.Record

/-! # Runs of the frame loop

A run carries out its steps, the messages and turns of its passes, until one fails or none is left.
Then it shuts the loop down: every guard is awaited and the surface is released. What it returns is
the failure of the step that failed, if one did.
-/

namespace Waterfall

/-- The call that handles a message. -/
def RenderControl.call : RenderControl → LoopCall
  | .resize extent => .resize extent
  | .select scene => .select scene

/-- The steps of a pass: its messages, then a turn. -/
def Pass.steps (pass : Pass) : List LoopCall :=
  pass.messages.map RenderControl.call ++ [.turn pass.moment]

namespace FrameLoop

variable {loop ended final : FrameLoop MemoryDevice} {steps : List LoopCall}

theorem run_of_handle_ok {message : RenderControl} (ran : handle message loop = .ok () ended) :
    message.call.run loop = (.done, ended) := by
  cases message with
  | resize extent =>
    have performed : (LoopCall.resize extent).perform loop = .ok .done ended := bind_of_ok ran
    rw [RenderControl.call, LoopCall.run, performed]
  | select scene =>
    have performed : (LoopCall.select scene).perform loop = .ok .done ended := bind_of_ok ran
    rw [RenderControl.call, LoopCall.run, performed]

theorem run_of_handle_error {message : RenderControl} {fault : Fault}
    (failed : handle message loop = .error fault ended) :
    message.call.run loop = (.failed fault, ended) := by
  cases message with
  | resize extent =>
    have performed : (LoopCall.resize extent).perform loop = .error fault ended :=
      bind_of_error failed
    rw [RenderControl.call, LoopCall.run, performed]
  | select scene =>
    have performed : (LoopCall.select scene).perform loop = .error fault ended :=
      bind_of_error failed
    rw [RenderControl.call, LoopCall.run, performed]

/-- No step fails. -/
def Succeed (steps : List LoopCall) (loop : FrameLoop MemoryDevice) : Prop :=
  ∀ report ∈ (replay steps loop).1, report.isFailed = false

/-- The first step that fails comes with a fault and leaves the loop so. -/
def FailsWith (steps : List LoopCall) (loop : FrameLoop MemoryDevice) (fault : Fault)
    (ended : FrameLoop MemoryDevice) : Prop :=
  ∃ done call rest, steps = done ++ call :: rest ∧ Succeed done loop ∧
    call.run (replay done loop).2 = (.failed fault, ended)

theorem succeed_nil (loop : FrameLoop MemoryDevice) : Succeed [] loop := nofun

theorem Succeed.cons {call : LoopCall} {report : LoopReport}
    (ran : call.run loop = (report, ended)) (fine : report.isFailed = false)
    (rest : Succeed steps ended) : Succeed (call :: steps) loop := by
  intro other member
  rw [replay, ran] at member
  obtain rfl | member := List.mem_cons.mp member
  · exact fine
  · exact rest other member

theorem FailsWith.cons {call : LoopCall} {report : LoopReport} {fault : Fault}
    (ran : call.run loop = (report, ended)) (fine : report.isFailed = false)
    (fails : FailsWith steps ended fault final) : FailsWith (call :: steps) loop fault final := by
  obtain ⟨done, failing, rest, rfl, succeed, failed⟩ := fails
  refine ⟨call :: done, failing, rest, rfl, succeed.cons ran fine, ?_⟩
  rwa [replay, ran]

theorem failsWith_of_first {call : LoopCall} {fault : Fault}
    (failed : call.run loop = (.failed fault, ended)) :
    FailsWith (call :: steps) loop fault ended :=
  ⟨[], call, steps, rfl, succeed_nil loop, failed⟩

/-- How the steps of a run end: all succeed and the stop flag is seen, or one of them fails. -/
inductive StepsEnd (steps : List LoopCall) (loop : FrameLoop MemoryDevice) :
    EStateM.Result Fault (FrameLoop MemoryDevice) Unit → Prop
  | stopped {ended : FrameLoop MemoryDevice} (succeed : Succeed steps loop)
      (left : (replay steps loop).2 = ended) :
      StepsEnd steps loop
        (.ok () { ended with notices := ended.notices ++ [.renderLoopStopped ended.frame] })
  | failed {fault : Fault} {ended : FrameLoop MemoryDevice}
      (fails : FailsWith steps loop fault ended) : StepsEnd steps loop (.error fault ended)

theorem StepsEnd.cons {call : LoopCall} {report : LoopReport}
    {result : EStateM.Result Fault (FrameLoop MemoryDevice) Unit}
    (ran : call.run loop = (report, ended)) (fine : report.isFailed = false)
    (rest : StepsEnd steps ended result) : StepsEnd (call :: steps) loop result := by
  cases rest with
  | stopped succeed left =>
    refine .stopped (succeed.cons ran fine) ?_
    rw [replay, ran]
    exact left
  | failed fails => exact .failed (fails.cons ran fine)

/-- Messages are handled before what comes after them. -/
theorem stepsEnd_of_messages {next : LoopM MemoryDevice Unit}
    (goes_on : ∀ loop, StepsEnd steps loop (next loop)) (messages : List RenderControl)
    (loop : FrameLoop MemoryDevice) :
    StepsEnd (messages.map RenderControl.call ++ steps) loop
      ((handleAll messages >>= fun _ => next) loop) := by
  induction messages generalizing loop with
  | nil => exact goes_on loop
  | cons message rest ih =>
    rw [handleAll, bind_assoc]
    cases ran : handle message loop with
    | ok _ handled =>
      rw [bind_of_ok ran]
      exact (ih handled).cons (run_of_handle_ok ran) rfl
    | error fault handled =>
      rw [bind_of_error ran]
      exact .failed (failsWith_of_first (run_of_handle_error ran))

/-- A turn comes before what follows it. -/
theorem stepsEnd_of_turn {next : LoopM MemoryDevice Unit} (moment : Moment)
    (goes_on : ∀ loop, StepsEnd steps loop (next loop)) (loop : FrameLoop MemoryDevice) :
    StepsEnd (.turn moment :: steps) loop ((turn moment >>= fun _ => next) loop) := by
  have reported := LoopCall.run_turn moment loop
  cases ran : turn moment loop with
  | ok outcome turned =>
    rw [ran] at reported
    rw [bind_of_ok ran]
    exact (goes_on turned).cons reported rfl
  | error fault turned =>
    rw [ran] at reported
    rw [bind_of_error ran]
    exact .failed (failsWith_of_first reported)

theorem runPasses_end (passes : List Pass) (loop : FrameLoop MemoryDevice) :
    StepsEnd (passes.flatMap Pass.steps) loop (runPasses passes loop) := by
  induction passes generalizing loop with
  | nil => exact .stopped (succeed_nil loop) rfl
  | cons first rest ih =>
    rw [List.flatMap_cons, Pass.steps, List.append_assoc, runPasses, pass, bind_assoc]
    exact stepsEnd_of_messages (stepsEnd_of_turn first.moment ih) first.messages loop

/-- The loop after its shutdown. -/
def shutDown (loop : FrameLoop MemoryDevice) : FrameLoop MemoryDevice := leftBy (shutdown loop)

theorem shutdown_ok (loop : FrameLoop MemoryDevice) : shutdown loop = .ok () loop.shutDown := by
  rw [shutDown, shutdown_reports]
  rfl

/-- How a run ends. -/
inductive RunEnd (steps : List LoopCall) (loop : FrameLoop MemoryDevice) :
    EStateM.Result Fault (FrameLoop MemoryDevice) Unit → Prop
  | stopped {ended : FrameLoop MemoryDevice} (succeed : Succeed steps loop)
      (left : (replay steps loop).2 = ended) :
      RunEnd steps loop
        (.ok () (shutDown
          { ended with notices := ended.notices ++ [.renderLoopStopped ended.frame] }))
  | failed {cause : Failure} {ended : FrameLoop MemoryDevice}
      (fails : FailsWith steps loop (.failure cause) ended) :
      RunEnd steps loop (.error (.failure cause) ended.shutDown)
  | breached {cause : Breach} {ended : FrameLoop MemoryDevice}
      (fails : FailsWith steps loop (.breach cause) ended) :
      RunEnd steps loop (.error (.breach cause) ended)

theorem run_end (passes : List Pass) (loop : FrameLoop MemoryDevice) :
    RunEnd (passes.flatMap Pass.steps) loop (run passes loop) := by
  have ended := runPasses_end passes loop
  unfold run closing
  generalize runPasses passes loop = result at ended
  cases ended with
  | stopped succeed left =>
    dsimp only
    rw [shutdown_ok]
    exact .stopped succeed left
  | @failed fault ended fails =>
    cases fault with
    | failure cause =>
      dsimp only
      rw [shutdownAfter, shutdown_ok]
      exact .failed fails
    | breach cause => exact .breached fails

open CallRecord (liveAfter)

/-- The paragraph that a shutdown adds to the journal: a wait for each guard, a wait for the device,
and the release of the surface, if there is one. -/
def closingJournal (loop : FrameLoop MemoryDevice) : List String :=
  (loop.slots.map fun slot => s!"wait fence {slot.inFlight}") ++ ["wait idle"] ++
    if loop.life.resources.isSome then
      ["drop commands", "drop framebuffers", "drop pipeline", "drop target", "drop depth",
        "drop images", "drop surface"]
    else []

/-- What a run that ended like `ended` leaves once everything is released. -/
structure Released (ended final : FrameLoop MemoryDevice) : Prop where
  resources : final.life.resources = none
  state : final.life.state = .recreating
  pending : final.life.pending = none
  live : ∀ kind, liveAfter kind final.device.calls = 0
  journal : final.device.journal = ended.device.journal ++ ended.closingJournal
  drawings : ∃ added, CallRecord.Idle added ∧ final.device.calls = ended.device.calls ++ added

theorem journal_shutDown (loop : FrameLoop MemoryDevice) :
    loop.shutDown.device.journal = loop.device.journal ++ loop.closingJournal := by
  let awaits : List CallRecord :=
    loop.slots.map fun slot => .accepted (.waitFence slot.inFlight loop.guardTimeout)
  have calls : loop.shutDown.device.calls =
      loop.device.calls ++ (awaits ++ Screen.clearCalls loop.life) := by
    rw [shutDown, shutdown_reports]
    exact List.append_assoc _ _ _
  have waits : awaits.filterMap MemoryDevice.journalText? =
      loop.slots.map fun slot => s!"wait fence {slot.inFlight}" := by
    rw [List.filterMap_map]
    exact congrFun List.filterMap_eq_map _
  have clears : (Screen.clearCalls loop.life).filterMap MemoryDevice.journalText? =
      ["wait idle"] ++ if loop.life.resources.isSome then
        ["drop commands", "drop framebuffers", "drop pipeline", "drop target", "drop depth",
          "drop images", "drop surface"]
      else [] := by
    rw [Screen.clearCalls]
    split <;> rfl
  rw [MemoryDevice.journal, calls, List.filterMap_append, List.filterMap_append, waits, clears,
    closingJournal, List.append_assoc]
  rfl

/-- A shutdown releases everything. -/
theorem released_shutDown (recorded : loop.toScreen.Recorded) : Released loop loop.shutDown := by
  have resources : loop.shutDown.life.resources = none := by
    rw [shutDown, shutdown_reports]
    rfl
  refine ⟨resources, ?_, ?_, ?_, journal_shutDown loop, (idleTo_shutdown loop).calls⟩
  · rw [shutDown, shutdown_reports]
    rfl
  · rw [shutDown, shutdown_reports]
    rfl
  · intro kind
    have live := (recorded_shutdown recorded).live kind
    rw [← shutDown, resources] at live
    exact live

/-- The notice about the stop flag does not matter. -/
theorem Released.of_stopped {notices : List Notice}
    (released : Released { ended with notices } final) : Released ended final :=
  ⟨released.resources, released.state, released.pending, released.live, released.journal,
    released.drawings⟩

/-- What a loop and its screen agree on and what is recorded, every step keeps. -/
theorem recorded_replay (agrees : loop.Agrees) (recorded : loop.toScreen.Recorded)
    (steps : List LoopCall) :
    (replay steps loop).2.Agrees ∧ (replay steps loop).2.toScreen.Recorded := by
  have step : ∀ call ∈ steps, ∀ (_ : List LoopReport) (loop : FrameLoop MemoryDevice),
      loop.Agrees ∧ loop.toScreen.Recorded →
        (call.run loop).2.Agrees ∧ (call.run loop).2.toScreen.Recorded := by
    rintro call _ _ loop ⟨agrees, recorded⟩
    exact ⟨agrees.run call, recorded_run agrees recorded call⟩
  exact replay_keeps (motive := fun _ loop => loop.Agrees ∧ loop.toScreen.Recorded) step
    ⟨agrees, recorded⟩ (Prod.eta (replay steps loop)).symm

theorem recorded_of_failsWith {fault : Fault} (agrees : loop.Agrees)
    (recorded : loop.toScreen.Recorded) (fails : FailsWith steps loop fault ended) :
    ended.toScreen.Recorded := by
  obtain ⟨done, call, rest, _, _, failed⟩ := fails
  obtain ⟨agrees, recorded⟩ := recorded_replay agrees recorded done
  have kept := recorded_run agrees recorded call
  rwa [failed] at kept

/-- Whatever was called before, a run whose steps all succeed returns well, one whose first failing
step reports a failure returns that failure, and in both cases everything is released after every
guard was awaited. Only a breach leaves the loop as it is. -/
theorem released_of_run {config : RenderConfig} {camera : Camera} {layout : Layout}
    {overlay : Overlay} {settings : DeviceSettings} {start after : FrameLoop MemoryDevice}
    {calls : List LoopCall} {reports : List LoopReport}
    (created : create config camera layout overlay settings.device = .ok () start)
    (replayed : replay calls start = (reports, after)) (passes : List Pass) :
    (∀ final, run passes after = .ok () final →
      Succeed (passes.flatMap Pass.steps) after ∧
        Released (replay (passes.flatMap Pass.steps) after).2 final) ∧
    (∀ cause final, run passes after = .error (.failure cause) final →
      ∃ ended, FailsWith (passes.flatMap Pass.steps) after (.failure cause) ended ∧
        Released ended final) ∧
    ∀ cause final, run passes after = .error (.breach cause) final →
      FailsWith (passes.flatMap Pass.steps) after (.breach cause) final := by
  have created := created_of_create created
  obtain ⟨agrees, recorded⟩ : after.Agrees ∧ after.toScreen.Recorded := by
    have kept := recorded_replay (agrees_of_created settings.imageCount_pos created)
      (recorded_of_created created) calls
    rwa [replayed] at kept
  have run_ended := run_end passes after
  refine ⟨?_, ?_, ?_⟩
  · intro final ran
    rw [ran] at run_ended
    cases run_ended with
    | stopped succeed left =>
      subst left
      have kept := (recorded_replay agrees recorded (passes.flatMap Pass.steps)).2
      refine ⟨succeed, .of_stopped (released_shutDown ?_)⟩
      exact kept.of_notices
  · intro cause final ran
    rw [ran] at run_ended
    cases run_ended with
    | failed fails =>
      exact ⟨_, fails, released_shutDown (recorded_of_failsWith agrees recorded fails)⟩
  · intro cause final ran
    rw [ran] at run_ended
    cases run_ended with
    | breached fails => exact fails

/-- The fault that a run returns. -/
def fault? : EStateM.Result Fault (FrameLoop MemoryDevice) Unit → Option Fault
  | .ok _ _ => none
  | .error fault _ => some fault

theorem eq_error_of_fault? {result : EStateM.Result Fault (FrameLoop MemoryDevice) Unit}
    {fault : Fault} (failed : fault? result = some fault) :
    result = .error fault (leftBy result) := by
  cases result with
  | ok _ final => cases failed
  | error other final =>
    cases failed
    rfl

/-- The second of three turns finds no image in time: its failure is what the run returns, and the
message for the third one is not handled. -/
theorem released_of_late_image :
    ∃ start reports after final,
      create {} {} ⟨2, 2⟩ {} (DeviceSettings.device { window := ⟨4, 3⟩ }) = .ok () start ∧
        replay [.configure { window := ⟨4, 3⟩, timeoutOn := [1] }] start = (reports, after) ∧
        run
            [⟨[.resize ⟨5, 5⟩], ⟨0, History.create .origin ⟨2, 2⟩ (by decide), .identity⟩⟩,
              ⟨[], ⟨0, History.create .origin ⟨2, 2⟩ (by decide), .identity⟩⟩,
              ⟨[.resize ⟨6, 6⟩], ⟨0, History.create .origin ⟨2, 2⟩ (by decide), .identity⟩⟩] after =
          .error (.failure (.violation (.acquireTimeout (.ofMilliseconds 2000)))) final ∧
        (∃ ended, Released ended final) ∧ final.windowExtent = ⟨5, 5⟩ ∧
        final.device.journal.drop (final.device.journal.length - 12) =
          ["wait fence 2", "wait fence 1", "wait fence 2", "wait fence 3", "wait idle",
            "drop commands", "drop framebuffers", "drop pipeline", "drop target", "drop depth",
            "drop images", "drop surface"] := by
  have created : create {} {} ⟨2, 2⟩ {} (DeviceSettings.device { window := ⟨4, 3⟩ }) =
      .ok () (leftBy (create {} {} ⟨2, 2⟩ {}
        (DeviceSettings.device { window := ⟨4, 3⟩ }))) := rfl
  have released := fun calls => released_of_run created (Prod.eta (replay calls _)).symm
  refine ⟨_, _, _, _, created, (Prod.eta _).symm, eq_error_of_fault? ?_, ?_, ?_, ?_⟩
  · decide +kernel
  · let late : Failure := .violation (.acquireTimeout (.ofMilliseconds 2000))
    refine ((released _ _).2.1 late _ (eq_error_of_fault? ?_)).imp fun ended both => both.2
    decide +kernel
  · decide +kernel
  · decide +kernel

end FrameLoop

end Waterfall

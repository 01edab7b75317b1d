import Waterfall.Proofs.Frame.Calls

/-! # Calls of the frame loop in any order

A loop on a device in memory is called in any order, and between two calls the device may be set up
anew. A call that fails does not end the sequence: the next one finds the loop as it was left.
-/

namespace Waterfall

/-- What may be set on a device in memory at any time. A surface has at least one image. -/
structure DeviceSettings where
  window : Extent
  imageCount : Nat := 3
  imageCount_pos : 0 < imageCount := by decide
  outOfDateOn : List Nat := []
  timeoutOn : List Nat := []
  suboptimalOn : List Nat := []
  failingBuilds : Nat := 0
  holdSubmissions : Bool := false

/-- The device with other settings. -/
def MemoryDevice.configure (settings : DeviceSettings) (device : MemoryDevice) : MemoryDevice :=
  { device with
    window := settings.window
    imageCount := settings.imageCount
    outOfDateOn := settings.outOfDateOn
    timeoutOn := settings.timeoutOn
    suboptimalOn := settings.suboptimalOn
    failingBuilds := settings.failingBuilds
    holdSubmissions := settings.holdSubmissions }

/-- A new device. -/
def DeviceSettings.device (settings : DeviceSettings) : MemoryDevice :=
  MemoryDevice.configure settings { window := settings.window }

/-- A call of the frame loop, or new settings for its device. -/
inductive LoopCall
  | turn (moment : Moment)
  | resize (extent : Extent)
  | select (scene : Scene)
  | shutdown
  | configure (settings : DeviceSettings)

/-- What a call reported. -/
inductive LoopReport
  | turned (outcome : TurnOutcome)
  /-- The end of a call that is not a turn. -/
  | done
  | failed (fault : Fault)
deriving DecidableEq, Repr

namespace LoopReport

/-- Whether a call failed. -/
def isFailed : LoopReport → Bool
  | failed _ => true
  | _ => false

/-- What a turn reports. -/
def ofTurn : EStateM.Result Fault (FrameLoop MemoryDevice) TurnOutcome → LoopReport
  | .ok outcome _ => .turned outcome
  | .error fault _ => .failed fault

end LoopReport

namespace LoopCall

/-- Make a call. -/
def perform : LoopCall → LoopM MemoryDevice LoopReport
  | .turn moment => do return .turned (← FrameLoop.turn moment)
  | .resize extent => do
    FrameLoop.resize extent
    return .done
  | .select scene => do
    FrameLoop.selectScene scene
    return .done
  | .shutdown => do
    FrameLoop.shutdown
    return .done
  | .configure settings => do
    FrameLoop.onScreen (Screen.modifyDevice (MemoryDevice.configure settings))
    return .done

/-- What a call reports, and the loop it leaves. -/
def run (call : LoopCall) (loop : FrameLoop MemoryDevice) : LoopReport × FrameLoop MemoryDevice :=
  match call.perform loop with
  | .ok report after => (report, after)
  | .error fault after => (.failed fault, after)

/-- How a call ends, by the operation that it makes. -/
inductive RunEnd (loop : FrameLoop MemoryDevice) :
    LoopCall → LoopReport × FrameLoop MemoryDevice → Prop
  | turned {moment : Moment} {outcome : TurnOutcome} {after : FrameLoop MemoryDevice}
      (ran : loop.turn moment = .ok outcome after) :
      RunEnd loop (.turn moment) (.turned outcome, after)
  | turnFailed {moment : Moment} {fault : Fault} {after : FrameLoop MemoryDevice}
      (ran : loop.turn moment = .error fault after) :
      RunEnd loop (.turn moment) (.failed fault, after)
  | resized (extent : Extent) :
      RunEnd loop (.resize extent)
        (.done,
          { loop with
            windowExtent := extent
            life := { loop.life with pending := some extent } })
  | selected {scene : Scene} {after : FrameLoop MemoryDevice}
      (ran : FrameLoop.selectScene scene loop = .ok () after) :
      RunEnd loop (.select scene) (.done, after)
  | selectFailed {scene : Scene} {fault : Fault} {after : FrameLoop MemoryDevice}
      (ran : FrameLoop.selectScene scene loop = .error fault after) :
      RunEnd loop (.select scene) (.failed fault, after)
  | shutDown {after : FrameLoop MemoryDevice} (ran : loop.shutdown = .ok () after) :
      RunEnd loop .shutdown (.done, after)
  | configured (settings : DeviceSettings) :
      RunEnd loop (.configure settings)
        (.done, { loop with device := loop.device.configure settings })

theorem run_end (call : LoopCall) (loop : FrameLoop MemoryDevice) :
    RunEnd loop call (call.run loop) := by
  cases call with
  | turn moment =>
    cases ran : FrameLoop.turn moment loop with
    | ok outcome after =>
      have performed : (turn moment).perform loop = .ok (.turned outcome) after := bind_of_ok ran
      rw [run, performed]
      exact .turned ran
    | error fault after =>
      have performed : (turn moment).perform loop = .error fault after := bind_of_error ran
      rw [run, performed]
      exact .turnFailed ran
  | resize extent => exact .resized extent
  | select scene =>
    cases ran : FrameLoop.selectScene scene loop with
    | ok _ after =>
      have performed : (select scene).perform loop = .ok .done after := bind_of_ok ran
      rw [run, performed]
      exact .selected ran
    | error fault after =>
      have performed : (select scene).perform loop = .error fault after := bind_of_error ran
      rw [run, performed]
      exact .selectFailed ran
  | shutdown =>
    obtain ⟨notices, ran⟩ := FrameLoop.shutdown_eq loop
    have performed : shutdown.perform loop = .ok .done _ := bind_of_ok ran
    rw [run, performed]
    exact .shutDown ran
  | configure settings => exact .configured settings

theorem run_turn (moment : Moment) (loop : FrameLoop MemoryDevice) :
    (turn moment).run loop = (.ofTurn (loop.turn moment), leftBy (loop.turn moment)) := by
  have ended := (turn moment).run_end loop
  generalize (turn moment).run loop = result at ended
  cases ended with
  | turned ran =>
    rw [ran]
    rfl
  | turnFailed ran =>
    rw [ran]
    rfl

/-- What every operation keeps, every call keeps. -/
theorem run_keeps {motive : FrameLoop MemoryDevice → Prop} {loop : FrameLoop MemoryDevice}
    {call : LoopCall} (turn : ∀ moment, motive (leftBy (loop.turn moment)))
    (resize : ∀ extent, motive
      { loop with windowExtent := extent, life := { loop.life with pending := some extent } })
    (select : ∀ scene, motive (leftBy (FrameLoop.selectScene scene loop)))
    (shutdown : motive (leftBy loop.shutdown))
    (configure : ∀ settings : DeviceSettings, call = .configure settings →
      motive { loop with device := loop.device.configure settings }) :
    motive (call.run loop).2 := by
  have ended := call.run_end loop
  generalize call.run loop = result at ended
  cases ended with
  | @turned moment outcome after ran =>
    have turned := turn moment
    rwa [ran] at turned
  | @turnFailed moment fault after ran =>
    have turned := turn moment
    rwa [ran] at turned
  | resized extent => exact resize extent
  | @selected scene after ran =>
    have selected := select scene
    rwa [ran] at selected
  | @selectFailed scene fault after ran =>
    have selected := select scene
    rwa [ran] at selected
  | shutDown ran => rwa [ran] at shutdown
  | configured settings => exact configure settings rfl

end LoopCall

namespace FrameLoop

open CallRecord (idle_nil idle_map)

variable {loop : FrameLoop MemoryDevice}

theorem idleTo_select (scene : Scene) (loop : FrameLoop MemoryDevice) :
    loop.device.IdleTo (leftBy (selectScene scene loop)).device := by
  have ended := selectScene_end scene loop
  generalize selectScene scene loop = result at ended
  have idle_replaced (live : Bool) :
      CallRecord.Idle (if live then Screen.pipelineCalls scene else []) := by
    cases live with
    | true => exact Screen.idle_pipelineCalls scene
    | false => exact idle_nil
  cases ended with
  | same same => exact .refl _
  | unnumbered restyled unnumbered =>
    exact (MemoryDevice.preparesTo_prepare (.cons rfl idle_nil) 0 0).idleTo
  | @restyled indices notices restyled generated =>
    have reindexed : CallRecord.Idle
        [.accepted .waitIdle, .accepted (.uploadIndices indices.length)] :=
      .cons rfl (.cons rfl idle_nil)
    have added := reindexed.append (idle_replaced loop.life.resources.isSome)
    refine ⟨⟨_, added, ?_⟩, ⟨0, rfl⟩, rfl, rfl⟩
    exact List.append_assoc loop.device.calls _ _
  | rescened notices different kept =>
    exact (MemoryDevice.preparesTo_prepare (idle_replaced _) 0 0).idleTo

theorem idleTo_shutdown (loop : FrameLoop MemoryDevice) :
    loop.device.IdleTo (leftBy loop.shutdown).device := by
  obtain ⟨notices, ended⟩ := shutdown_eq loop
  rw [ended]
  have awaited : CallRecord.Idle (loop.slots.map fun slot =>
      .accepted (.waitFence slot.inFlight loop.guardTimeout)) := idle_map _ fun _ => rfl
  have cleared := Screen.idle_clearCalls loop.life
  exact ((MemoryDevice.preparesTo_prepare awaited 0 0).trans
    (MemoryDevice.preparesTo_prepare cleared 0 0)).idleTo

end FrameLoop

theorem LoopCall.turn_or (call : LoopCall) :
    (∃ moment, call = .turn moment) ∨ ∀ moment, call ≠ .turn moment := by
  cases call with
  | turn moment => exact .inl ⟨moment, rfl⟩
  | _ => exact .inr fun moment => by simp

/-- Only a turn draws. -/
theorem LoopCall.idleTo_run {call : LoopCall} {loop : FrameLoop MemoryDevice}
    (other : ∀ moment, call ≠ .turn moment) : loop.device.IdleTo (call.run loop).2.device := by
  have same := MemoryDevice.IdleTo.refl loop.device
  have ended := call.run_end loop
  generalize call.run loop = result at ended
  cases ended with
  | @turned moment outcome after ran => exact absurd rfl (other moment)
  | @turnFailed moment fault after ran => exact absurd rfl (other moment)
  | resized extent => exact same
  | @selected scene after ran =>
    have selected := FrameLoop.idleTo_select scene loop
    rwa [ran] at selected
  | @selectFailed scene fault after ran =>
    have selected := FrameLoop.idleTo_select scene loop
    rwa [ran] at selected
  | shutDown ran =>
    have stopped := FrameLoop.idleTo_shutdown loop
    rwa [ran] at stopped
  | configured settings => exact ⟨same.calls, same.fences, rfl, rfl⟩

/-- Only a turn changes the frame slots or goes on to another frame. -/
theorem LoopCall.pace_run {call : LoopCall} {loop : FrameLoop MemoryDevice}
    (other : ∀ moment, call ≠ .turn moment) :
    (call.run loop).2.slots = loop.slots ∧ (call.run loop).2.slot = loop.slot ∧
      (call.run loop).2.frame = loop.frame := by
  have ended := call.run_end loop
  generalize call.run loop = result at ended
  cases ended with
  | @turned moment outcome after ran => exact absurd rfl (other moment)
  | @turnFailed moment fault after ran => exact absurd rfl (other moment)
  | resized extent => exact ⟨rfl, rfl, rfl⟩
  | @selected scene after ran =>
    have ended := FrameLoop.selectScene_end scene loop
    rw [ran] at ended
    cases ended <;> exact ⟨rfl, rfl, rfl⟩
  | @selectFailed scene fault after ran =>
    have ended := FrameLoop.selectScene_end scene loop
    rw [ran] at ended
    cases ended
    exact ⟨rfl, rfl, rfl⟩
  | shutDown ran =>
    obtain ⟨notices, ended⟩ := FrameLoop.shutdown_eq loop
    rw [ended] at ran
    cases ran
    exact ⟨rfl, rfl, rfl⟩
  | configured settings => exact ⟨rfl, rfl, rfl⟩

namespace FrameLoop

/-- The reports of calls one after the other, and the loop they leave. -/
def replay : List LoopCall → FrameLoop MemoryDevice → List LoopReport × FrameLoop MemoryDevice
  | [], loop => ([], loop)
  | call :: rest, loop =>
    let (report, next) := call.run loop
    let (reports, after) := replay rest next
    (report :: reports, after)

section

variable {motive : List LoopReport → FrameLoop MemoryDevice → Prop} {calls : List LoopCall}
  {reports : List LoopReport} {loop after : FrameLoop MemoryDevice}

/-- What holds of the reports so far and of the loop, and is kept by every call of the sequence,
holds after all of them. -/
theorem replay_keeps_from
    (kept : ∀ call ∈ calls, ∀ reports loop, motive reports loop →
      motive (reports ++ [(call.run loop).1]) (call.run loop).2)
    (start : motive reports loop) :
    motive (reports ++ (replay calls loop).1) (replay calls loop).2 := by
  induction calls generalizing reports loop with
  | nil =>
    rw [replay, List.append_nil]
    exact start
  | cons call rest ih =>
    have rest_kept := fun other member => kept other (List.mem_cons_of_mem call member)
    have next := ih rest_kept (kept call List.mem_cons_self reports loop start)
    rw [List.append_assoc] at next
    exact next

theorem replay_keeps
    (kept : ∀ call ∈ calls, ∀ reports loop, motive reports loop →
      motive (reports ++ [(call.run loop).1]) (call.run loop).2)
    (start : motive [] loop) (replayed : replay calls loop = (reports, after)) :
    motive reports after := by
  have all := replay_keeps_from kept start
  rw [replayed] at all
  exact all

end

end FrameLoop

end Waterfall

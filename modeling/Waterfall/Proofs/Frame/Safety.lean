import Waterfall.Proofs.Frame.Record
import Waterfall.Proofs.Outcome

/-! # What a turn never meets

However a loop was called before, also after calls that failed, a turn draws only while its surface
is live, skips only without one, and fails for three reasons: a guard or an image that does not come
in time, and a rebuild without attempts left. The one breach is a surface with more images than
command buffers can be stored.
-/

namespace Waterfall

/-- The points of a board were counted when it was created. -/
theorem Board.points_of_create {layout : Layout} {scale : Scale} {board : Board}
    (created : create layout scale = .ok board) : ∃ points, layout.points = .ok points := by
  obtain ⟨history, allocated, _⟩ := bind_eq_ok.mp created
  unfold History.allocate at allocated
  split at allocated
  · obtain ⟨points, counted, _⟩ := bind_eq_ok.mp allocated
    exact ⟨points, counted⟩
  · cases allocated

/-- Once the points are counted there are uniforms. -/
theorem Camera.uniforms_of_points {layout : Layout} {points : Nat} (camera : Camera)
    (time : Float32) (extent : Extent) (rowCount : Nat) (style : VisualStyle)
    (counted : layout.points = .ok points) :
    ∃ uniforms, camera.uniforms time extent layout rowCount style = .ok uniforms := by
  unfold uniforms
  rw [counted]
  exact ⟨_, rfl⟩

namespace MemoryDevice

/-- The calls that drew to the surface. -/
def drawings (device : MemoryDevice) : List CallRecord := device.calls.filter (·.draws)

theorem IdleTo.drawings_eq {device after : MemoryDevice} (idle : device.IdleTo after) :
    after.drawings = device.drawings := by
  obtain ⟨added, idle, calls⟩ := idle.calls
  have none_draws : added.filter (·.draws) = [] :=
    List.filter_eq_nil_iff.mpr fun record member => by simp [idle record member]
  rw [drawings, calls, List.filter_append, none_draws, List.append_nil]
  rfl

end MemoryDevice

namespace FrameLoop

variable {loop : FrameLoop MemoryDevice} {moment : Moment}

/-- The failures that a turn can report. -/
inductive TurnFailure : Failure → Prop
  | guardTimeout (slot : Nat) (waited : Duration) :
      TurnFailure (.violation (.guardTimeout slot waited))
  | acquireTimeout (waited : Duration) : TurnFailure (.violation (.acquireTimeout waited))
  | recreateExhausted (attempts : Nat) (last : String) :
      TurnFailure (.recreateExhausted attempts last)

/-- A turn reports a failure only for a guard or an image that does not come in time, or for a
rebuild without attempts left. -/
theorem Agrees.turn_failure {cause : Failure} {next : FrameLoop MemoryDevice}
    (agrees : loop.Agrees) (failed : loop.turn moment = .error (.failure cause) next) :
    TurnFailure cause := by
  -- Of the two faults of a rebuild only one is a failure.
  have of_rebuild {extent : Extent} {affected : Option Nat} {screen after : Screen MemoryDevice}
      (ended : Screen.RebuildEnd extent affected screen (.error (.failure cause) after)) :
      TurnFailure cause := by
    obtain ⟨attempts, last, same⟩ | ⟨breach, _⟩ := ended.fault_cases
    · cases same
      exact .recreateExhausted attempts last
    · cases breach
  cases agrees.turn_end failed with
  | rebuildFailed failed =>
    have pending := PendingEnd.of_run failed
    cases pending with
    | failed scheduled ended => exact of_rebuild ended
  | guardTimeout rebuilt serves unsignaled => exact .guardTimeout _ _
  | asked rebuilt serves signaled ended =>
    cases ended with
    | recreateFailed outdated ended => exact of_rebuild ended
    | acquireTimeout current late => exact .acquireTimeout _

/-- A turn breaches a contract only if the device's images have more command buffers than can be
stored, provided that its board was created. -/
theorem Agrees.turn_breach {cause : Breach} {next : FrameLoop MemoryDevice} {points : Nat}
    (agrees : loop.Agrees) (counted : moment.board.layout.points = .ok points)
    (failed : loop.turn moment = .error (.breach cause) next) :
    cause = .overflow ∧ Word.storageLimit ≤ loop.device.imageCount := by
  have of_rebuild {extent : Extent} {affected : Option Nat} {screen after : Screen MemoryDevice}
      (ended : Screen.RebuildEnd extent affected screen (.error (.breach cause) after))
      (images : screen.device.imageCount = loop.device.imageCount) :
      cause = .overflow ∧ Word.storageLimit ≤ loop.device.imageCount := by
    obtain ⟨attempts, last, failure⟩ | ⟨breach, unfit⟩ := ended.fault_cases
    · cases failure
    · exact ⟨Fault.breach.inj breach, images ▸ unfit⟩
  cases agrees.turn_end failed with
  | rebuildFailed failed =>
    have pending := PendingEnd.of_run failed
    cases pending with
    | failed scheduled ended => exact of_rebuild ended rfl
  | @asked ready resources guard _ rebuilt serves signaled ended =>
    have pending := PendingEnd.of_run rebuilt
    have images : ready.device.imageCount = loop.device.imageCount := pending.preparesTo.imageCount
    cases ended with
    | recreateFailed outdated ended => exact of_rebuild ended images
    | uncounted current prompt uncounted =>
      obtain ⟨uniforms, known⟩ := Camera.uniforms_of_points ready.camera moment.time
        resources.extent moment.board.history.rowCount ready.life.scene.style counted
      cases uncounted.symm.trans known

/-- A turn is skipped exactly if there is no surface after the scheduled rebuild. -/
theorem Agrees.turn_skipped_iff (agrees : loop.Agrees) (moment : Moment)
    (next : FrameLoop MemoryDevice) :
    loop.turn moment = .ok .skipped next ↔
      loop.rebuildPending = .ok () next ∧ next.life.isValid = false := by
  constructor
  · intro skipped
    cases agrees.turn_end skipped with
    | skipped rebuilt invalid => exact ⟨rebuilt, invalid⟩
    | asked rebuilt serves signaled ended => cases ended
  · rintro ⟨rebuilt, invalid⟩
    unfold FrameLoop.turn
    rw [bind_of_ok rebuilt, get_bind, then_apply (by rw [invalid]; rfl)]
    rfl

/-- A turn draws only with a surface. -/
theorem Agrees.valid_of_turn_drawings (agrees : loop.Agrees)
    (drew : (leftBy (loop.turn moment)).device.drawings ≠ loop.device.drawings) :
    ∃ ready, loop.rebuildPending = .ok () ready ∧ ready.life.isValid = true := by
  generalize ran : loop.turn moment = result at drew
  cases agrees.turn_end ran with
  | rebuildFailed failed =>
    have pending := PendingEnd.of_run failed
    exact absurd pending.preparesTo.idleTo.drawings_eq drew
  | skipped rebuilt invalid =>
    have pending := PendingEnd.of_run rebuilt
    exact absurd pending.preparesTo.idleTo.drawings_eq drew
  | guardTimeout rebuilt serves unsignaled =>
    exact ⟨_, rebuilt, by rw [SurfaceLifecycle.isValid, serves.valid]; rfl⟩
  | asked rebuilt serves signaled ended =>
    exact ⟨_, rebuilt, by rw [SurfaceLifecycle.isValid, serves.valid]; rfl⟩

/-- A call draws only if it is a turn with a surface. -/
theorem Agrees.turn_of_drawings (agrees : loop.Agrees) {call : LoopCall}
    (drew : (call.run loop).2.device.drawings ≠ loop.device.drawings) :
    ∃ moment ready, call = .turn moment ∧ loop.rebuildPending = .ok () ready ∧
      ready.life.isValid = true := by
  obtain ⟨moment, rfl⟩ | other := call.turn_or
  · rw [LoopCall.run_turn] at drew
    obtain ⟨ready, rebuilt, valid⟩ := agrees.valid_of_turn_drawings drew
    exact ⟨moment, ready, rfl, rebuilt, valid⟩
  · exact absurd (LoopCall.idleTo_run other).drawings_eq drew

open CallRecord (liveAfter DrawnLive SurfacesSized)

/-- Whatever was called before, a loop and its surface agree, the record of its device shows only
careful calls, and the next turn fails in the expected ways only. -/
theorem safe_of_replay {config : RenderConfig} {camera : Camera} {layout : Layout}
    {overlay : Overlay} {settings : DeviceSettings} {start after : FrameLoop MemoryDevice}
    {calls : List LoopCall} {reports : List LoopReport}
    (created : create config camera layout overlay settings.device = .ok () start)
    (replayed : replay calls start = (reports, after)) :
    after.life.isValid = after.life.resources.isSome ∧
      (∀ resources ∈ after.life.resources,
        resources.extent.isEmpty = false ∧ after.life.lastGood = some resources.extent ∧
          after.slots.length = resources.imageCount) ∧
      after.slot < after.slots.length ∧
      SurfacesSized after.device.calls ∧
      DrawnLive after.device.calls ∧
      (∀ kind, liveAfter kind after.device.calls = if after.life.isValid then 1 else 0) ∧
      (∀ call, (LoopCall.run call after).2.device.drawings ≠ after.device.drawings →
        ∃ moment ready, call = .turn moment ∧ rebuildPending after = .ok () ready ∧
          ready.life.isValid = true) ∧
      (∀ moment next, turn moment after = .ok .skipped next ↔
        rebuildPending after = .ok () next ∧ next.life.isValid = false) ∧
      (∀ moment cause next, turn moment after = .error (.failure cause) next →
        TurnFailure cause) ∧
      ∀ moment scale empty cause next, Board.create moment.board.layout scale = .ok empty →
        turn moment after = .error (.breach cause) next →
          cause = .overflow ∧ Word.storageLimit ≤ after.device.imageCount := by
  have created := created_of_create created
  have started : start.Agrees ∧ start.toScreen.Recorded :=
    ⟨agrees_of_created settings.imageCount_pos created, recorded_of_created created⟩
  let motive (_ : List LoopReport) (loop : FrameLoop MemoryDevice) : Prop :=
    loop.Agrees ∧ loop.toScreen.Recorded
  have step : ∀ call ∈ calls, ∀ reports loop, motive reports loop →
      motive (reports ++ [(call.run loop).1]) (call.run loop).2 := by
    rintro call _ reports loop ⟨agrees, recorded⟩
    exact ⟨agrees.run call, recorded_run agrees recorded call⟩
  obtain ⟨agrees, recorded⟩ : motive reports after := replay_keeps step started replayed
  have valid_iff := agrees.screen.valid_iff
  refine ⟨valid_iff, ?_, agrees.slot_lt, recorded.sized, recorded.drawn, ?_,
    fun call => agrees.turn_of_drawings, agrees.turn_skipped_iff,
    fun moment cause next => agrees.turn_failure, ?_⟩
  · intro resources live
    have extent_eq := agrees.screen.extent_eq resources live
    exact ⟨agrees.screen.lastGood_sized _ extent_eq, extent_eq,
      agrees.screen.length_slots resources live⟩
  · intro kind
    rw [valid_iff]
    exact recorded.live kind
  · intro moment scale empty cause next empty_created failed
    obtain ⟨points, counted⟩ := Board.points_of_create empty_created
    exact agrees.turn_breach counted failed

/-- The guard that a refused rebuild leaves behind is missing in the next turn. -/
theorem safe_of_refused_rebuild :
    ∃ start reports after,
      create {} {} ⟨2, 2⟩ {} (DeviceSettings.device { window := ⟨4, 3⟩, outOfDateOn := [0] }) =
          .ok () start ∧
        replay
            [.configure { window := ⟨4, 3⟩, outOfDateOn := [0], failingBuilds := 3 },
              .turn ⟨0, History.create .origin ⟨2, 2⟩ (by decide), .identity⟩, .resize ⟨5, 5⟩,
              .turn ⟨0, History.create .origin ⟨2, 2⟩ (by decide), .identity⟩] start =
          (reports, after) ∧
        reports =
          [.done, .failed (.failure (.recreateExhausted 3 MemoryDevice.refusal.text)), .done,
            .failed (.violation (.guardTimeout 0 (.ofMilliseconds 2000)))] ∧
        after.life.isValid = true ∧ after.slot < after.slots.length ∧
        DrawnLive after.device.calls := by
  have created : create {} {} ⟨2, 2⟩ {}
      (DeviceSettings.device { window := ⟨4, 3⟩, outOfDateOn := [0] }) =
        .ok () (leftBy (create {} {} ⟨2, 2⟩ {}
          (DeviceSettings.device { window := ⟨4, 3⟩, outOfDateOn := [0] }))) := rfl
  have safe := fun calls => safe_of_replay created (Prod.eta (replay calls _)).symm
  refine ⟨_, _, _, created, (Prod.eta _).symm, ?_, ?_, (safe _).2.2.1, (safe _).2.2.2.2.1⟩
  · decide +kernel
  · decide +kernel

end FrameLoop

end Waterfall

import Waterfall.Proofs.Frame.Guards
import Waterfall.Proofs.Frame.Running

/-! # What a shutdown reports as in flight

A shutdown reports the slots whose guards are unsignaled. Guards are unsignaled after submissions
that were held, and one more may be after a failure: a turn that asked for an image and failed
before it submitted leaves the guard of its slot reset, so the shutdown after it waits for a signal
that nothing will send.
-/

namespace Waterfall

namespace Screen

variable {screen after : Screen MemoryDevice} {index : Nat}

/-- The guard of a slot was reset, and its last submission, if there was one, is complete. -/
def Stranded (index : Nat) (screen : Screen MemoryDevice) : Prop :=
  ∀ slot, screen.slots[index]? = some slot →
    screen.device.isSignaled slot.inFlight = false ∧ ¬screen.device.LastHeld slot.inFlight

/-- Calls that draw nothing leave a stranded slot stranded. -/
theorem Stranded.of_idle {affected : Option Nat} (stranded : screen.Stranded index)
    (guarded : screen.Guarded affected) (idle : screen.device.IdleTo after.device)
    (slots : after.slots = screen.slots) : after.Stranded index := by
  intro slot found
  rw [slots] at found
  rw [idle.isSignaled_eq (guarded.issued slot (List.mem_of_getElem? found)),
    MemoryDevice.LastHeld, idle.submissions_eq]
  exact stranded slot found

end Screen

namespace FrameLoop

variable {loop ended final : FrameLoop MemoryDevice} {resources : SurfaceResources}
  {guard : FenceId} {moment : Moment}

/-- A guard that was signaled before the turn reset it is stranded. -/
theorem stranded_asked (guarded : loop.toScreen.Guarded none)
    (serves : loop.Serves resources guard) (signaled : loop.device.isSignaled guard = true) :
    (loop.asked guard).toScreen.Stranded loop.slot := by
  intro slot found
  obtain rfl := Option.some.inj (serves.guarded.symm.trans found)
  have issued := guarded.issued _ (List.mem_of_getElem? serves.guarded)
  refine ⟨MemoryDevice.isSignaled_asked_self issued, ?_⟩
  have submissions : (loop.asked guard).device.submissions guard =
      loop.device.submissions guard := MemoryDevice.submissions_asked _ _
  rw [MemoryDevice.LastHeld, submissions]
  intro held
  have unaffected : none ≠ some loop.slot := (Option.some_ne_none _).symm
  have unsignaled := (guarded.unsignaled_iff _ _ serves.guarded unaffected).mpr held
  cases unsignaled.symm.trans signaled

/-- The slot whose guard a failed step reset: the one that it asked for an image with. -/
def spoiled (before ended : FrameLoop MemoryDevice) : Option Nat :=
  if before.device.acquires < ended.device.acquires then some ended.slot else none

theorem spoiled_of_same (same : ended.device.acquires = loop.device.acquires) :
    spoiled loop ended = none := if_neg (by omega)

theorem spoiled_of_more (more : loop.device.acquires < ended.device.acquires) :
    spoiled loop ended = some ended.slot := if_pos more

/-- What a failed turn leaves of the guards. -/
structure Failed (cause : Failure) (before ended : FrameLoop MemoryDevice) : Prop where
  guarded : ended.toScreen.Guarded (spoiled before ended)
  stranded : ∀ index ∈ spoiled before ended, ended.toScreen.Stranded index
  of_guardTimeout : ∀ slot waited, cause = .violation (.guardTimeout slot waited) →
    spoiled before ended = none
  of_acquireTimeout : ∀ waited, cause = .violation (.acquireTimeout waited) →
    spoiled before ended = some ended.slot

/-- A failure before an image was asked for leaves all guards as they were. -/
theorem failed_of_same {cause : Failure} (guarded : ended.toScreen.Guarded none)
    (same : ended.device.acquires = loop.device.acquires)
    (other : ∀ waited, cause ≠ .violation (.acquireTimeout waited)) : Failed cause loop ended := by
  have none_spoiled := spoiled_of_same same
  refine ⟨none_spoiled ▸ guarded, ?_, fun _ _ _ => none_spoiled, ?_⟩
  · rw [none_spoiled]
    exact nofun
  · intro waited same
    exact absurd same (other waited)

/-- A failure after an image was asked for leaves the guard of the slot reset. -/
theorem failed_of_more {cause : Failure} (guarded : ended.toScreen.Guarded (some ended.slot))
    (stranded : ended.toScreen.Stranded ended.slot)
    (more : loop.device.acquires < ended.device.acquires)
    (other : ∀ slot waited, cause ≠ .violation (.guardTimeout slot waited)) :
    Failed cause loop ended := by
  have one_spoiled := spoiled_of_more more
  refine ⟨one_spoiled ▸ guarded, ?_, ?_, fun _ _ => one_spoiled⟩
  · rw [one_spoiled]
    rintro _ ⟨⟩
    exact stranded
  · intro slot waited same
    exact absurd same (other slot waited)

/-- Only the number of requests for images before the turn matters. -/
theorem Failed.of_ready {cause : Failure} {ready : FrameLoop MemoryDevice}
    (failed : Failed cause ready ended) (same : ready.device.acquires = loop.device.acquires) :
    Failed cause loop ended := by
  have spoiled_eq : spoiled loop ended = spoiled ready ended := by
    rw [spoiled, spoiled, same]
  obtain ⟨guarded, stranded, of_guardTimeout, of_acquireTimeout⟩ := failed
  rw [← spoiled_eq] at guarded stranded of_guardTimeout of_acquireTimeout
  exact ⟨guarded, stranded, of_guardTimeout, of_acquireTimeout⟩

/-- The fault of a rebuild is no timeout. -/
theorem not_timeout_of_rebuild {extent : Extent} {affected : Option Nat}
    {screen after : Screen MemoryDevice} {cause : Failure}
    (ended : Screen.RebuildEnd extent affected screen (.error (.failure cause) after)) :
    ∃ attempts last, cause = .recreateExhausted attempts last := by
  obtain ⟨attempts, last, same⟩ | ⟨breach, _⟩ := ended.fault_cases
  · exact ⟨attempts, last, Fault.failure.inj same⟩
  · cases breach

theorem failed_of_asked {cause : Failure} (guarded : loop.toScreen.Guarded none)
    (serves : loop.Serves resources guard) (signaled : loop.device.isSignaled guard = true)
    (result : AskedEnd moment loop resources guard (.error (.failure cause) ended)) :
    Failed cause loop ended := by
  have asked := guarded_asked guarded serves
  have stranded := stranded_asked guarded serves signaled
  have more : loop.device.acquires < (loop.asked guard).device.acquires := Nat.lt_succ_self _
  cases result with
  | recreateFailed outdated result =>
    have idle := result.preparesTo.idleTo
    have slots := result.slots_of_error
    obtain ⟨attempts, last, rfl⟩ := not_timeout_of_rebuild result
    refine failed_of_more (asked.of_idle idle slots) (stranded.of_idle asked idle slots) ?_ nofun
    exact Nat.lt_of_lt_of_eq more idle.acquires.symm
  | acquireTimeout current late => exact failed_of_more asked stranded more nofun

/-- A turn that fails leaves all guards as they were, or all but the one that it reset. -/
theorem failed_of_turn {cause : Failure} (agrees : loop.Agrees)
    (guarded : loop.toScreen.Guarded none)
    (failed : loop.turn moment = .error (.failure cause) ended) : Failed cause loop ended := by
  cases agrees.turn_end failed with
  | rebuildFailed failed =>
    have pending := PendingEnd.of_run failed
    have idle := pending.preparesTo.idleTo
    cases pending with
    | failed scheduled result =>
      obtain ⟨attempts, last, rfl⟩ := not_timeout_of_rebuild result
      exact failed_of_same (guarded.of_idle idle result.slots_of_error) idle.acquires nofun
  | @guardTimeout ready resources guard rebuilt serves unsignaled =>
    have pending := PendingEnd.of_run rebuilt
    have waited : CallRecord.Idle [.accepted (.waitFence guard ready.guardTimeout)] :=
      .cons rfl CallRecord.idle_nil
    have idle : ready.device.IdleTo (ready.device.awaited guard ready.guardTimeout) :=
      ⟨⟨_, waited, rfl⟩, ⟨0, (List.append_nil _).symm⟩, rfl, rfl⟩
    let waiting : Screen MemoryDevice :=
      { ready.toScreen with device := ready.device.awaited guard ready.guardTimeout }
    have kept : waiting.Guarded none := (guarded_rebuildPending guarded pending).of_idle idle rfl
    exact failed_of_same kept pending.preparesTo.idleTo.acquires nofun
  | asked rebuilt serves signaled result =>
    have pending := PendingEnd.of_run rebuilt
    have ready_guarded := guarded_rebuildPending guarded pending
    exact (failed_of_asked ready_guarded serves signaled result).of_ready
      pending.preparesTo.idleTo.acquires

/-- Only a turn reports a failure. -/
theorem turn_of_failure {call : LoopCall} {cause : Failure}
    (failed : call.run loop = (.failed (.failure cause), ended)) :
    ∃ moment, call = .turn moment ∧ loop.turn moment = .error (.failure cause) ended := by
  have result := call.run_end loop
  rw [failed] at result
  cases result with
  | turnFailed ran => exact ⟨_, rfl, ran⟩
  | @selectFailed scene fault after ran =>
    have selected := selectScene_end scene loop
    rw [ran] at selected
    cases selected

/-- As long as no step fails, each slot has a guard. -/
theorem guarded_replay {steps : List LoopCall} (agrees : loop.Agrees)
    (guarded : loop.toScreen.Guarded none) (succeed : Succeed steps loop) :
    (replay steps loop).2.Agrees ∧ (replay steps loop).2.toScreen.Guarded none := by
  induction steps generalizing loop with
  | nil => exact ⟨agrees, guarded⟩
  | cons call rest ih =>
    have first : (call.run loop).1.isFailed = false := succeed _ List.mem_cons_self
    have others : Succeed rest (call.run loop).2 :=
      fun report member => succeed report (List.mem_cons_of_mem _ member)
    exact ih (agrees.run call) (guarded_run agrees guarded first) others

/-- The slots that a shutdown reports as in flight. -/
def inFlight (loop : FrameLoop MemoryDevice) : List Nat := loop.device.unsignaled 0 loop.slots

theorem notices_shutDown (loop : FrameLoop MemoryDevice) :
    loop.shutDown.notices = loop.notices ++ loop.inFlight.map .slotInFlight := by
  rw [shutDown, shutdown_reports]
  rfl

/-- A slot is reported for a submission that was held, or because its guard was left reset. -/
theorem mem_inFlight_iff {affected : Option Nat} (guarded : ended.toScreen.Guarded affected)
    (stranded : ∀ index ∈ affected, ended.toScreen.Stranded index) {index : Nat} {slot : FrameSlot}
    (found : ended.slots[index]? = some slot) :
    index ∈ ended.inFlight ↔ ended.device.LastHeld slot.inFlight ∨ affected = some index := by
  rw [inFlight, MemoryDevice.mem_unsignaled_iff found]
  by_cases same : affected = some index
  · have unsignaled := (stranded index same slot found).1
    simp [unsignaled, same]
  · rw [guarded.unsignaled_iff index slot found same]
    simp [same]

/-- A run without failures before it ends with a shutdown that reports the slots whose last
submission was held. If the run itself failed in a turn that had asked for an image, it also reports
the slot of that turn, with which nothing is in flight: always when no image came in time, and never
when the guard of the slot did not. -/
theorem inFlight_of_run {config : RenderConfig} {camera : Camera} {layout : Layout}
    {overlay : Overlay} {settings : DeviceSettings} {start after : FrameLoop MemoryDevice}
    {calls : List LoopCall} {reports : List LoopReport}
    (created : create config camera layout overlay settings.device = .ok () start)
    (replayed : replay calls start = (reports, after))
    (succeeded : ∀ report ∈ reports, report.isFailed = false) (passes : List Pass) :
    (∀ final, run passes after = .ok () final →
      ∃ ended, ended = (replay (passes.flatMap Pass.steps) after).2 ∧
        final.notices = ended.notices ++ [.renderLoopStopped ended.frame] ++
          ended.inFlight.map .slotInFlight ∧
        ∀ index slot, ended.slots[index]? = some slot →
          (index ∈ ended.inFlight ↔ ended.device.LastHeld slot.inFlight)) ∧
    ∀ cause final, run passes after = .error (.failure cause) final →
      ∃ done moment rest before ended,
        passes.flatMap Pass.steps = done ++ .turn moment :: rest ∧ Succeed done after ∧
        (replay done after).2 = before ∧ turn moment before = .error (.failure cause) ended ∧
        final.notices = ended.notices ++ ended.inFlight.map .slotInFlight ∧
        (∀ index slot, ended.slots[index]? = some slot →
          (index ∈ ended.inFlight ↔
            ended.device.LastHeld slot.inFlight ∨ spoiled before ended = some index) ∧
          (spoiled before ended = some index → ¬ended.device.LastHeld slot.inFlight)) ∧
        (∀ slot waited, cause = .violation (.guardTimeout slot waited) →
          spoiled before ended = none) ∧
        ∀ waited, cause = .violation (.acquireTimeout waited) →
          spoiled before ended = some ended.slot ∧ ended.slot ∈ ended.inFlight := by
  have created := created_of_create created
  obtain ⟨agrees, guarded⟩ : after.Agrees ∧ after.toScreen.Guarded none := by
    have succeed : Succeed calls start := by
      rw [Succeed, replayed]
      exact succeeded
    have kept := guarded_replay (agrees_of_created settings.imageCount_pos created)
      (guarded_of_created created) succeed
    rwa [replayed] at kept
  have run_ended := run_end passes after
  constructor
  · intro final ran
    rw [ran] at run_ended
    cases run_ended with
    | stopped succeed left =>
      obtain ⟨_, kept⟩ := guarded_replay agrees guarded succeed
      rw [left] at kept
      refine ⟨_, left.symm, notices_shutDown _, ?_⟩
      intro index slot found
      have reported := mem_inFlight_iff kept nofun found
      simpa using reported
  · intro cause final ran
    rw [ran] at run_ended
    cases run_ended with
    | @failed _ ended fails =>
      obtain ⟨done, call, rest, steps, succeed, failed⟩ := fails
      obtain ⟨moment, rfl, turned⟩ := turn_of_failure failed
      obtain ⟨before_agrees, before_guarded⟩ := guarded_replay agrees guarded succeed
      have left := failed_of_turn before_agrees before_guarded turned
      have ended_agrees := before_agrees.turn moment
      rw [turned] at ended_agrees
      refine ⟨done, moment, rest, _, ended, steps, succeed, rfl, turned, notices_shutDown ended,
        ?_, left.of_guardTimeout, ?_⟩
      · intro index slot found
        refine ⟨mem_inFlight_iff left.guarded left.stranded found, ?_⟩
        intro same
        exact (left.stranded index same slot found).2
      · intro waited late
        have same := left.of_acquireTimeout waited late
        have found := List.getElem?_eq_getElem ended_agrees.slot_lt
        exact ⟨same, (mem_inFlight_iff left.guarded left.stranded found).mpr (.inr same)⟩

/-- No image comes in time for the first frame: its slot is reported as in flight, though nothing
was ever submitted. -/
theorem inFlight_of_late_image :
    ∃ start reports after final,
      create {} {} ⟨2, 2⟩ {} (DeviceSettings.device { window := ⟨4, 3⟩, timeoutOn := [0] }) =
          .ok () start ∧
        replay [] start = (reports, after) ∧ (∀ report ∈ reports, report.isFailed = false) ∧
        run [⟨[], ⟨0, History.create .origin ⟨2, 2⟩ (by decide), .identity⟩⟩] after =
          .error (.failure (.violation (.acquireTimeout (.ofMilliseconds 2000)))) final ∧
        (∃ before ended, spoiled before ended = some ended.slot ∧
          ended.slot ∈ ended.inFlight ∧
          final.notices = ended.notices ++ ended.inFlight.map .slotInFlight) ∧
        .slotInFlight 0 ∈ final.notices ∧ final.slots[0]? = some ⟨1⟩ ∧
        final.device.submissions 1 = [] := by
  have created : create {} {} ⟨2, 2⟩ {}
      (DeviceSettings.device { window := ⟨4, 3⟩, timeoutOn := [0] }) =
        .ok () (leftBy (create {} {} ⟨2, 2⟩ {}
          (DeviceSettings.device { window := ⟨4, 3⟩, timeoutOn := [0] }))) := rfl
  have reported := inFlight_of_run created (Prod.eta (replay [] _)).symm nofun
  refine ⟨_, _, _, _, created, (Prod.eta _).symm, nofun, eq_error_of_fault? ?_, ?_, ?_, ?_, ?_⟩
  · decide +kernel
  · let late : Failure := .violation (.acquireTimeout (.ofMilliseconds 2000))
    obtain ⟨_, _, _, before, ended, _, _, _, _, notices, _, _, of_late⟩ :=
      (reported [⟨[], ⟨0, History.create .origin ⟨2, 2⟩ (by decide), .identity⟩⟩]).2 late _
        (eq_error_of_fault? (by decide +kernel))
    obtain ⟨spoiled, reported⟩ := of_late _ rfl
    exact ⟨before, ended, spoiled, reported, notices⟩
  · decide +kernel
  · decide +kernel
  · decide +kernel

end FrameLoop

end Waterfall

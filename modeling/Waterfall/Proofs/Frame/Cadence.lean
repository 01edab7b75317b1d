import Waterfall.Proofs.Frame.Agreement

/-! # The cadence of frames and slots

A turn that presents or rebuilds takes the next frame number; no other call takes one. With a fixed
number of images the frame also fixes the slot: the slots go round, and no rebuild, skipped turn or
failure puts them out of step with the frames.
-/

namespace Waterfall

/-- The frame that a turn took, and its slot. -/
def TurnOutcome.framed? : TurnOutcome → Option (Nat × Nat)
  | presented frame slot | recreated frame slot => some (frame, slot)
  | skipped => none

namespace LoopReport

/-- The frame that a call took, and its slot. -/
def framed? : LoopReport → Option (Nat × Nat)
  | turned outcome => outcome.framed?
  | _ => none

/-- Whether a call presented a frame. -/
def isPresented : LoopReport → Bool
  | turned (.presented _ _) => true
  | _ => false

/-- Whether a call spent a frame on a rebuild. -/
def isRecreated : LoopReport → Bool
  | turned (.recreated _ _) => true
  | _ => false

/-- The frames that calls took, and their slots, in order. -/
def frames (reports : List LoopReport) : List (Nat × Nat) := reports.filterMap framed?

/-- The number of frames that calls presented. -/
def presented (reports : List LoopReport) : Nat := reports.countP isPresented

/-- The number of frames that calls spent on rebuilds. -/
def recreated (reports : List LoopReport) : Nat := reports.countP isRecreated

theorem frames_concat (reports : List LoopReport) (report : LoopReport) :
    frames (reports ++ [report]) = frames reports ++ report.framed?.toList := by
  rw [frames, List.filterMap_append]
  cases framed : report.framed? with
  | none => simp [frames, framed]
  | some pair => simp [frames, framed]

theorem presented_concat (reports : List LoopReport) (report : LoopReport) :
    presented (reports ++ [report]) = presented reports + if report.isPresented then 1 else 0 := by
  rw [presented, List.countP_append, List.countP_singleton]
  rfl

theorem recreated_concat (reports : List LoopReport) (report : LoopReport) :
    recreated (reports ++ [report]) = recreated reports + if report.isRecreated then 1 else 0 := by
  rw [recreated, List.countP_append, List.countP_singleton]
  rfl

theorem not_presented_of_unframed {report : LoopReport} (unframed : report.framed? = none) :
    report.isPresented = false ∧ report.isRecreated = false := by
  cases report with
  | turned outcome =>
    cases outcome with
    | skipped => exact ⟨rfl, rfl⟩
    | presented frame slot => cases unframed
    | recreated frame slot => cases unframed
  | done => exact ⟨rfl, rfl⟩
  | failed fault => exact ⟨rfl, rfl⟩

end LoopReport

namespace FrameLoop

open LoopReport (frames presented recreated)

variable {loop : FrameLoop MemoryDevice} {resources : SurfaceResources} {guard : FenceId}
  {moment : Moment}

/-- What a call does to the numbers of frames and presentations. -/
inductive Beat (loop : FrameLoop MemoryDevice) : LoopReport → FrameLoop MemoryDevice → Prop
  | rest {report : LoopReport} {next : FrameLoop MemoryDevice} (unframed : report.framed? = none)
      (frame : next.frame = loop.frame) (presents : next.device.presents = loop.device.presents) :
      Beat loop report next
  | presented {slot : Nat} {next : FrameLoop MemoryDevice} (frame : next.frame = loop.frame + 1)
      (presents : next.device.presents = loop.device.presents + 1) :
      Beat loop (.turned (.presented loop.frame slot)) next
  | recreated {slot : Nat} {next : FrameLoop MemoryDevice} (frame : next.frame = loop.frame + 1)
      (presents : next.device.presents = loop.device.presents) :
      Beat loop (.turned (.recreated loop.frame slot)) next

theorem PendingEnd.frame_eq {result : EStateM.Result Fault (FrameLoop MemoryDevice) Unit}
    (ended : PendingEnd loop result) : (leftBy result).frame = loop.frame := by
  cases ended <;> rfl

theorem PendingEnd.presents_eq {result : EStateM.Result Fault (FrameLoop MemoryDevice) Unit}
    (ended : PendingEnd loop result) :
    (leftBy result).device.presents = loop.device.presents :=
  ended.preparesTo.idleTo.presents

theorem beat_of_asked {result : EStateM.Result Fault (FrameLoop MemoryDevice) TurnOutcome}
    (ended : AskedEnd moment loop resources guard result) :
    Beat loop (LoopReport.ofTurn result) (leftBy result) := by
  cases ended with
  | recreated outdated ended => exact .recreated rfl ended.preparesTo.idleTo.presents
  | recreateFailed outdated ended => exact .rest rfl rfl ended.preparesTo.idleTo.presents
  | acquireTimeout current late => exact .rest rfl rfl rfl
  | uncounted current prompt uncounted => exact .rest rfl rfl rfl
  | presented notices current prompt counted => exact .presented rfl rfl

theorem Beat.of_same {ready next : FrameLoop MemoryDevice} {report : LoopReport}
    (beat : Beat ready report next) (frame : ready.frame = loop.frame)
    (presents : ready.device.presents = loop.device.presents) : Beat loop report next := by
  cases beat with
  | rest unframed next_frame next_presents =>
    exact .rest unframed (next_frame.trans frame) (next_presents.trans presents)
  | presented next_frame next_presents =>
    rw [frame] at next_frame ⊢
    rw [presents] at next_presents
    exact .presented next_frame next_presents
  | recreated next_frame next_presents =>
    rw [frame] at next_frame ⊢
    rw [presents] at next_presents
    exact .recreated next_frame next_presents

theorem Agrees.beat_of_turn (agrees : loop.Agrees) (moment : Moment) :
    Beat loop (.ofTurn (loop.turn moment)) (leftBy (loop.turn moment)) := by
  generalize ran : loop.turn moment = result
  cases agrees.turn_end ran with
  | rebuildFailed failed =>
    have pending := PendingEnd.of_run failed
    exact .rest rfl pending.frame_eq pending.presents_eq
  | skipped rebuilt invalid =>
    have pending := PendingEnd.of_run rebuilt
    exact .rest rfl pending.frame_eq pending.presents_eq
  | guardTimeout rebuilt serves unsignaled =>
    have pending := PendingEnd.of_run rebuilt
    exact .rest rfl pending.frame_eq pending.presents_eq
  | asked rebuilt serves signaled ended =>
    have pending := PendingEnd.of_run rebuilt
    exact (beat_of_asked ended).of_same pending.frame_eq pending.presents_eq

theorem unframed_run {call : LoopCall} (other : ∀ moment, call ≠ .turn moment) :
    (call.run loop).1.framed? = none := by
  have ended := call.run_end loop
  generalize call.run loop = result at ended
  cases ended with
  | turned ran => exact absurd rfl (other _)
  | _ => rfl

/-- Every call takes at most one frame, the next one. -/
theorem Agrees.beat (agrees : loop.Agrees) (call : LoopCall) :
    Beat loop (call.run loop).1 (call.run loop).2 := by
  obtain ⟨moment, rfl⟩ | other := call.turn_or
  · rw [LoopCall.run_turn]
    exact agrees.beat_of_turn moment
  · exact .rest (unframed_run other) (LoopCall.pace_run other).2.2
      (LoopCall.idleTo_run other).presents

/-- The reports account for all frames and presentations. -/
structure Counted (reports : List LoopReport) (loop : FrameLoop MemoryDevice) : Prop where
  frames : (frames reports).map Prod.fst = List.range loop.frame
  total : loop.frame = presented reports + recreated reports
  presents : loop.device.presents = presented reports

theorem Counted.beat {reports : List LoopReport} {report : LoopReport}
    {next : FrameLoop MemoryDevice} (counted : Counted reports loop)
    (beat : Beat loop report next) : Counted (reports ++ [report]) next := by
  obtain ⟨frames_eq, total, presents_eq⟩ := counted
  cases beat with
  | rest unframed frame presents =>
    have ⟨not_presented, not_recreated⟩ := LoopReport.not_presented_of_unframed unframed
    refine ⟨?_, ?_, ?_⟩
    · rwa [LoopReport.frames_concat, unframed, frame, Option.toList_none, List.append_nil]
    · rw [LoopReport.presented_concat, LoopReport.recreated_concat, not_presented, not_recreated]
      exact frame.trans total
    · rw [LoopReport.presented_concat, not_presented]
      exact presents.trans presents_eq
  | @presented slot next frame presents =>
    refine ⟨?_, ?_, ?_⟩
    · rw [LoopReport.frames_concat, List.map_append, frames_eq, frame, List.range_succ]
      rfl
    · rw [LoopReport.presented_concat, LoopReport.recreated_concat, frame, total]
      exact Nat.add_right_comm _ _ _
    · rw [LoopReport.presented_concat, presents, presents_eq]
      rfl
  | @recreated slot next frame presents =>
    refine ⟨?_, ?_, ?_⟩
    · rw [LoopReport.frames_concat, List.map_append, frames_eq, frame, List.range_succ]
      rfl
    · rw [LoopReport.presented_concat, LoopReport.recreated_concat, frame, total]
      exact Nat.add_assoc _ _ _
    · rw [LoopReport.presented_concat, presents, presents_eq]
      rfl

/-- The slots are in step with the frames, for surfaces with a fixed number of images. Before the
first frame there may be another number of slots. -/
structure Paced (images : Nat) (loop : FrameLoop MemoryDevice) : Prop where
  images_eq : loop.device.imageCount = images
  live : ∀ resources ∈ loop.life.resources, resources.imageCount = images
  slot_eq : loop.slot = loop.frame % images
  length_slots : loop.frame = 0 ∨ loop.slots.length = images

variable {images : Nat}

/-- A rebuild makes surfaces with the device's number of images. -/
theorem imageCount_of_rebuild {extent : Extent} {affected : Option Nat}
    {screen : Screen MemoryDevice}
    {result : EStateM.Result Fault (Screen MemoryDevice) SurfaceState}
    (ended : Screen.RebuildEnd extent affected screen result) :
    ∀ resources ∈ (leftBy result).life.resources,
      resources.imageCount = screen.device.imageCount := by
  cases ended with
  | deferred notices empty =>
    intro resources live
    simp [leftBy, Screen.cleared] at live
  | rebuilt notices sized enough fits =>
    intro resources live
    simp only [leftBy, Screen.life_fitted, Screen.installed, Option.mem_some_iff] at live
    rw [← live]
    rfl
  | exhausted notices sized few =>
    intro resources live
    cases live
  | oversized notices sized enough unfit =>
    intro resources live
    cases live

theorem Paced.rebuildPending {result : EStateM.Result Fault (FrameLoop MemoryDevice) Unit}
    (paced : Paced images loop) (images_pos : 0 < images) (ended : PendingEnd loop result) :
    Paced images (leftBy result) := by
  obtain ⟨images_eq, live, slot_eq, length_slots⟩ := paced
  have images_kept := ended.preparesTo.imageCount.trans images_eq
  cases ended with
  | idle unscheduled => exact ⟨images_eq, live, slot_eq, length_slots⟩
  | @rebuilt extent state screen scheduled ended =>
    have new_live := imageCount_of_rebuild ended
    rw [images_eq] at new_live
    have new_length := ended.length_slots (images_eq ▸ images_pos)
    rw [images_eq] at new_length
    refine ⟨images_kept, new_live, ?_, ?_⟩
    · change loop.slot % screen.slots.length = loop.frame % images
      obtain first | fitted := length_slots
      · rw [slot_eq, first, Nat.zero_mod, Nat.zero_mod]
      · have fitted_now : screen.slots.length = images :=
          new_length.elim (fun same => same.trans fitted) id
        rw [fitted_now, slot_eq, Nat.mod_mod]
    · exact length_slots.imp id fun fitted => new_length.elim (fun same => same.trans fitted) id
  | failed scheduled ended =>
    have new_live := imageCount_of_rebuild ended
    rw [images_eq] at new_live
    refine ⟨images_kept, new_live, slot_eq, ?_⟩
    rw [leftBy, ended.slots_of_error]
    exact length_slots

/-- A loop that serves has one slot for each image. -/
theorem Paced.fitted (paced : Paced images loop) (agrees : loop.Agrees)
    (serves : loop.Serves resources guard) : loop.slots.length = images :=
  (agrees.screen.length_slots resources serves.live).trans (paced.live resources serves.live)

theorem Paced.asked {result : EStateM.Result Fault (FrameLoop MemoryDevice) TurnOutcome}
    (paced : Paced images loop) (images_pos : 0 < images) (agrees : loop.Agrees)
    (serves : loop.Serves resources guard) (ended : AskedEnd moment loop resources guard result) :
    Paced images (leftBy result) := by
  have fitted := paced.fitted agrees serves
  obtain ⟨images_eq, live, slot_eq, _⟩ := paced
  have count := live resources serves.live
  have next_slot : (loop.slot + 1) % images = (loop.frame + 1) % images := by
    rw [slot_eq, Nat.mod_add_mod]
  have images_asked : (loop.asked guard).device.imageCount = images := images_eq
  cases ended with
  | @recreated state screen outdated ended =>
    have new_live := imageCount_of_rebuild ended
    rw [images_asked] at new_live
    have new_length : screen.slots.length = images := by
      obtain same | refitted := ended.length_slots (images_asked ▸ images_pos)
      · exact same.trans fitted
      · exact refitted.trans images_asked
    refine ⟨ended.preparesTo.imageCount.trans images_asked, new_live, ?_, .inr new_length⟩
    rw [leftBy, new_length]
    exact next_slot
  | recreateFailed outdated ended =>
    have new_live := imageCount_of_rebuild ended
    rw [images_asked] at new_live
    refine ⟨ended.preparesTo.imageCount.trans images_asked, new_live, slot_eq, .inr ?_⟩
    rw [leftBy, ended.slots_of_error]
    exact fitted
  | acquireTimeout current late => exact ⟨images_eq, live, slot_eq, .inr fitted⟩
  | uncounted current prompt uncounted =>
    refine ⟨images_eq, ?_, slot_eq, .inr fitted⟩
    rintro _ ⟨⟩
    exact count
  | presented notices current prompt counted =>
    refine ⟨images_eq, ?_, ?_, .inr fitted⟩
    · rintro _ ⟨⟩
      exact count
    · change (loop.slot + 1) % loop.slots.length = (loop.frame + 1) % images
      rw [fitted]
      exact next_slot

theorem Paced.turn (paced : Paced images loop) (images_pos : 0 < images) (agrees : loop.Agrees)
    (moment : Moment) : Paced images (leftBy (loop.turn moment)) := by
  refine agrees.turn_keeps ?_ ?_ ?_
  · intro result ended
    exact paced.rebuildPending images_pos ended
  · intro ready guard ready_paced
    exact ⟨ready_paced.images_eq, ready_paced.live, ready_paced.slot_eq, ready_paced.length_slots⟩
  · intro ready resources guard result ready_agrees serves ended ready_paced
    exact ready_paced.asked images_pos ready_agrees serves ended

/-- The frame of a turn fixes its slot. -/
theorem Paced.slot_of_turn {outcome : TurnOutcome} {next : FrameLoop MemoryDevice}
    {frame slot : Nat} (paced : Paced images loop) (images_pos : 0 < images)
    (agrees : loop.Agrees) (ran : loop.turn moment = .ok outcome next)
    (framed : outcome.framed? = some (frame, slot)) : slot = frame % images := by
  cases agrees.turn_end ran with
  | skipped rebuilt invalid => cases framed
  | asked rebuilt serves signaled ended =>
    have pending := PendingEnd.of_run rebuilt
    have slot_eq := (paced.rebuildPending images_pos pending).slot_eq
    cases ended with
    | recreated outdated ended =>
      cases framed
      exact slot_eq
    | presented notices current prompt counted =>
      cases framed
      exact slot_eq

theorem Paced.slot_of_run {call : LoopCall} {frame slot : Nat} (paced : Paced images loop)
    (images_pos : 0 < images) (agrees : loop.Agrees)
    (framed : (call.run loop).1.framed? = some (frame, slot)) : slot = frame % images := by
  obtain ⟨moment, rfl⟩ | other := call.turn_or
  · rw [LoopCall.run_turn] at framed
    cases ran : loop.turn moment with
    | ok outcome next =>
      rw [ran] at framed
      exact paced.slot_of_turn images_pos agrees ran framed
    | error fault next =>
      rw [ran] at framed
      cases framed
  · rw [unframed_run other] at framed
    cases framed

theorem Paced.select (paced : Paced images loop) (scene : Scene) :
    Paced images (leftBy (selectScene scene loop)) := by
  obtain ⟨images_eq, live, slot_eq, length_slots⟩ := paced
  have rescened_live : ∀ resources ∈ loop.life.resources.map fun resources =>
      { resources with scene }, resources.imageCount = images := by
    intro resources member
    obtain ⟨old, old_live, rfl⟩ := Option.map_eq_some_iff.mp member
    exact live old old_live
  have ended := selectScene_end scene loop
  generalize selectScene scene loop = result at ended
  cases ended with
  | same same => exact ⟨images_eq, live, slot_eq, length_slots⟩
  | unnumbered restyled unnumbered => exact ⟨images_eq, live, slot_eq, length_slots⟩
  | restyled notices restyled generated => exact ⟨images_eq, rescened_live, slot_eq, length_slots⟩
  | rescened notices different kept => exact ⟨images_eq, rescened_live, slot_eq, length_slots⟩

/-- Every call keeps the pace, as long as the number of images stays the same. -/
theorem Paced.run {call : LoopCall} (paced : Paced images loop) (images_pos : 0 < images)
    (agrees : loop.Agrees)
    (same : ∀ settings, call = .configure settings → settings.imageCount = images) :
    Paced images (call.run loop).2 := by
  refine LoopCall.run_keeps (paced.turn images_pos agrees) ?_ paced.select ?_ ?_
  · intro extent
    exact ⟨paced.images_eq, paced.live, paced.slot_eq, paced.length_slots⟩
  · obtain ⟨notices, ended⟩ := shutdown_eq loop
    rw [ended]
    exact ⟨paced.images_eq, nofun, paced.slot_eq, paced.length_slots⟩
  · intro settings configured
    exact ⟨same settings configured, paced.live, paced.slot_eq, paced.length_slots⟩

theorem paced_of_created {config : RenderConfig} {camera : Camera} {layout : Layout}
    {overlay : Overlay} {device : MemoryDevice}
    (created : Created config camera layout overlay device loop) :
    Paced device.imageCount loop := by
  cases created with
  | deferred notices generated empty =>
    exact ⟨rfl, nofun, (Nat.zero_mod _).symm, .inl rfl⟩
  | built notices generated sized ready fits =>
    refine ⟨rfl, ?_, (Nat.zero_mod _).symm, .inl rfl⟩
    rintro _ ⟨⟩
    rfl

/-- While the number of images stays the same, every frame has the slot that its number fixes. -/
theorem paced_of_replay {calls : List LoopCall} {reports : List LoopReport}
    {after : FrameLoop MemoryDevice} (images_pos : 0 < images) (agrees : loop.Agrees)
    (paced : Paced images loop) (replayed : replay calls loop = (reports, after))
    (same : ∀ settings, .configure settings ∈ calls → settings.imageCount = images) :
    ∀ frame slot, (frame, slot) ∈ frames reports → slot = frame % images := by
  let motive (reports : List LoopReport) (loop : FrameLoop MemoryDevice) : Prop :=
    loop.Agrees ∧ Paced images loop ∧
      ∀ frame slot, (frame, slot) ∈ frames reports → slot = frame % images
  have step : ∀ call ∈ calls, ∀ reports loop, motive reports loop →
      motive (reports ++ [(call.run loop).1]) (call.run loop).2 := by
    rintro call member reports loop ⟨agrees, paced, slots⟩
    have unchanged : ∀ settings, call = .configure settings → settings.imageCount = images :=
      fun settings configured => same settings (configured ▸ member)
    refine ⟨agrees.run call, paced.run images_pos agrees unchanged, ?_⟩
    intro frame slot framed
    rw [LoopReport.frames_concat] at framed
    obtain before | now := List.mem_append.mp framed
    · exact slots frame slot before
    · exact paced.slot_of_run images_pos agrees (Option.mem_toList.mp now)
  have kept : motive reports after := replay_keeps step ⟨agrees, paced, nofun⟩ replayed
  exact kept.2.2

theorem counted_of_created {config : RenderConfig} {camera : Camera} {layout : Layout}
    {overlay : Overlay} {settings : DeviceSettings}
    (created : Created config camera layout overlay settings.device loop) : Counted [] loop := by
  cases created with
  | deferred notices generated empty => exact ⟨rfl, rfl, rfl⟩
  | built notices generated sized ready fits => exact ⟨rfl, rfl, rfl⟩

/-- A turn that does not fail spends its frame on a rebuild exactly if its acquisition found the
surface out of date. -/
theorem Agrees.turn_recreated_iff {outcome : TurnOutcome} {next : FrameLoop MemoryDevice}
    (agrees : loop.Agrees) (ran : loop.turn moment = .ok outcome next) :
    (∃ frame slot, outcome = .recreated frame slot) ↔
      next.device.acquires = loop.device.acquires + 1 ∧
        loop.device.acquires ∈ loop.device.outOfDateOn := by
  cases agrees.turn_end ran with
  | skipped rebuilt invalid =>
    have pending := PendingEnd.of_run rebuilt
    have acquires : next.device.acquires = loop.device.acquires :=
      pending.preparesTo.idleTo.acquires
    constructor
    · rintro ⟨frame, slot, ⟨⟩⟩
    · rintro ⟨acquired, _⟩
      omega
  | @asked ready resources guard _ rebuilt serves signaled ended =>
    have pending := PendingEnd.of_run rebuilt
    have acquires : ready.device.acquires = loop.device.acquires :=
      pending.preparesTo.idleTo.acquires
    have outOfDateOn : ready.device.outOfDateOn = loop.device.outOfDateOn :=
      pending.preparesTo.outOfDateOn
    cases ended with
    | @recreated state screen outdated ended =>
      have acquired : screen.device.acquires = ready.device.acquires + 1 :=
        ended.preparesTo.idleTo.acquires
      rw [acquires, outOfDateOn] at outdated
      rw [acquires] at acquired
      exact ⟨fun _ => ⟨acquired, outdated⟩, fun _ => ⟨_, _, rfl⟩⟩
    | presented notices current prompt counted =>
      rw [acquires, outOfDateOn] at current
      constructor
      · rintro ⟨frame, slot, ⟨⟩⟩
      · rintro ⟨_, outdated⟩
        exact absurd outdated current

/-- A turn whose acquisition found the surface out of date fails only if its rebuild does. -/
theorem Agrees.turn_failed_outdated {fault : Fault} {next : FrameLoop MemoryDevice}
    (agrees : loop.Agrees) (failed : loop.turn moment = .error fault next)
    (acquired : next.device.acquires = loop.device.acquires + 1)
    (outdated : loop.device.acquires ∈ loop.device.outOfDateOn) :
    (∃ attempts last, fault = .failure (.recreateExhausted attempts last)) ∨
      fault = .breach .overflow ∧ Word.storageLimit ≤ loop.device.imageCount := by
  cases agrees.turn_end failed with
  | rebuildFailed failed =>
    have pending := PendingEnd.of_run failed
    have acquires : next.device.acquires = loop.device.acquires :=
      pending.preparesTo.idleTo.acquires
    omega
  | @guardTimeout ready resources guard rebuilt serves unsignaled =>
    have pending := PendingEnd.of_run rebuilt
    have acquires : ready.device.acquires = loop.device.acquires :=
      pending.preparesTo.idleTo.acquires
    change ready.device.acquires = loop.device.acquires + 1 at acquired
    omega
  | @asked ready resources guard _ rebuilt serves signaled ended =>
    have pending := PendingEnd.of_run rebuilt
    rw [← pending.preparesTo.idleTo.acquires, ← pending.preparesTo.outOfDateOn] at outdated
    cases ended with
    | recreateFailed _ ended =>
      have images : (ready.asked guard).device.imageCount = loop.device.imageCount :=
        pending.preparesTo.imageCount
      exact images ▸ ended.fault_cases
    | acquireTimeout current late => exact absurd outdated current
    | uncounted current prompt uncounted => exact absurd outdated current

/-- The frames are numbered without gap or repetition, and each presents or rebuilds. While the
number of images stays the same, frame and slot go round together. -/
theorem cadence_of_replay {config : RenderConfig} {camera : Camera} {layout : Layout}
    {overlay : Overlay} {settings : DeviceSettings} {start after : FrameLoop MemoryDevice}
    {calls : List LoopCall} {reports : List LoopReport}
    (created : create config camera layout overlay settings.device = .ok () start)
    (replayed : replay calls start = (reports, after)) :
    (frames reports).map Prod.fst = List.range after.frame ∧
      after.frame = presented reports + recreated reports ∧
      after.device.presents = presented reports ∧
      (∀ moment next, turn moment after = .ok .skipped next → next.frame = after.frame) ∧
      (∀ moment fault next, turn moment after = .error fault next → next.frame = after.frame) ∧
      (∀ moment outcome next, turn moment after = .ok outcome next →
        ((∃ frame slot, outcome = .recreated frame slot) ↔
          next.device.acquires = after.device.acquires + 1 ∧
            after.device.acquires ∈ after.device.outOfDateOn)) ∧
      (∀ moment fault next, turn moment after = .error fault next →
        next.device.acquires = after.device.acquires + 1 →
        after.device.acquires ∈ after.device.outOfDateOn →
          (∃ attempts last, fault = .failure (.recreateExhausted attempts last)) ∨
            fault = .breach .overflow ∧ Word.storageLimit ≤ after.device.imageCount) ∧
      ((∀ other, .configure other ∈ calls → other.imageCount = settings.imageCount) →
        ∀ frame slot, (frame, slot) ∈ frames reports → slot = frame % settings.imageCount) := by
  have created := created_of_create created
  have started := agrees_of_created settings.imageCount_pos created
  let motive (reports : List LoopReport) (loop : FrameLoop MemoryDevice) : Prop :=
    loop.Agrees ∧ Counted reports loop
  have step : ∀ call ∈ calls, ∀ reports loop, motive reports loop →
      motive (reports ++ [(call.run loop).1]) (call.run loop).2 := by
    rintro call _ reports loop ⟨agrees, counted⟩
    exact ⟨agrees.run call, counted.beat (agrees.beat call)⟩
  obtain ⟨agrees, counted⟩ : motive reports after :=
    replay_keeps step ⟨started, counted_of_created created⟩ replayed
  refine ⟨counted.frames, counted.total, counted.presents, ?_, ?_,
    fun moment outcome next => agrees.turn_recreated_iff,
    fun moment fault next => agrees.turn_failed_outdated, ?_⟩
  · intro moment next skipped
    have beat := agrees.beat_of_turn moment
    rw [skipped] at beat
    cases beat with
    | rest unframed frame presents => exact frame
  · intro moment fault next failed
    have beat := agrees.beat_of_turn moment
    rw [failed] at beat
    cases beat with
    | rest unframed frame presents => exact frame
  · intro same
    have paced := paced_of_created created
    exact paced_of_replay settings.imageCount_pos started paced replayed same

/-- A loop begins without a size and with a slot more than its surfaces have images. -/
theorem cadence_of_late_size :
    ∃ start reports after,
      create {} {} ⟨2, 2⟩ {}
          (DeviceSettings.device { window := ⟨0, 0⟩, imageCount := 2, outOfDateOn := [1] }) =
          .ok () start ∧
        replay
            [.turn ⟨0, History.create .origin ⟨2, 2⟩ (by decide), .identity⟩, .resize ⟨4, 3⟩,
              .turn ⟨0, History.create .origin ⟨2, 2⟩ (by decide), .identity⟩,
              .turn ⟨0, History.create .origin ⟨2, 2⟩ (by decide), .identity⟩,
              .turn ⟨0, History.create .origin ⟨2, 2⟩ (by decide), .identity⟩] start =
          (reports, after) ∧
        start.slots.length = 3 ∧
        reports =
          [.turned .skipped, .done, .turned (.presented 0 0), .turned (.recreated 1 1),
            .turned (.presented 2 0)] ∧
        after.device.presents = presented reports ∧
        ∀ frame slot, (frame, slot) ∈ frames reports → slot = frame % 2 := by
  have created : create {} {} ⟨2, 2⟩ {}
      (DeviceSettings.device { window := ⟨0, 0⟩, imageCount := 2, outOfDateOn := [1] }) =
        .ok () (leftBy (create {} {} ⟨2, 2⟩ {}
          (DeviceSettings.device { window := ⟨0, 0⟩, imageCount := 2, outOfDateOn := [1] }))) := rfl
  have cadence := fun calls => cadence_of_replay created (Prod.eta (replay calls _)).symm
  refine ⟨_, _, _, created, (Prod.eta _).symm, rfl, ?_, (cadence _).2.2.1, ?_⟩
  · decide +kernel
  · refine (cadence _).2.2.2.2.2.2.2 fun other member => ?_
    simp at member

end FrameLoop

end Waterfall

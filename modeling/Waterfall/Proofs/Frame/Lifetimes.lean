import Waterfall.Proofs.Device.Quiet

/-! # The frame loop and the lives of the surface's resources

However the loop is called, and whatever its device is set to, resources are built and released
together. This needs neither a surface with images nor a guard in its place: an operation that fails
leaves the resources as its last step did.
-/

namespace Waterfall

open MemoryDevice (Quiet QuietTo)

namespace MemoryDevice

open CallRecord (Lifetimes liveAfter buildEntries releaseEntries)

/-- The record of a device on which all resources are live or none is. The surfaces that were
refused and those still to be refused add up to a total. -/
structure Tracks (total : Nat) (live : Bool) (device : MemoryDevice) : Prop where
  lifetimes : Lifetimes device.calls
  live : ∀ kind, liveAfter kind device.calls = if live then 1 else 0
  refusals : device.refusals + device.failingBuilds = total

variable {device after : MemoryDevice} {total : Nat} {live : Bool}

/-- What the record shows after more calls. -/
theorem Tracks.append {added : List CallRecord} {now : Bool} (tracks : device.Tracks total live)
    (calls : after.calls = device.calls ++ added) (lifetimes : Lifetimes (device.calls ++ added))
    (counts : ∀ kind, added.foldl (CallRecord.countLive kind) (if live then 1 else 0) =
      if now then 1 else 0)
    (refused : added.countP CallRecord.isRefusal + after.failingBuilds = device.failingBuilds) :
    after.Tracks total now := by
  refine ⟨calls ▸ lifetimes, ?_, ?_⟩
  · intro kind
    rw [calls, CallRecord.liveAfter_append, tracks.live]
    exact counts kind
  · rw [refusals_append calls, Nat.add_assoc, refused]
    exact tracks.refusals

theorem Tracks.quiet (tracks : device.Tracks total live) (quiet : device.QuietTo after) :
    after.Tracks total live := by
  obtain ⟨added, calls, keeps⟩ := quiet.calls
  have none_refused : added.countP CallRecord.isRefusal = 0 :=
    List.countP_eq_zero.mpr fun record member => by
      simp [CallRecord.isRefusal_of_keeps (keeps record member)]
  refine tracks.append calls (tracks.lifetimes.append_keeps keeps) (fun kind => ?_) ?_
  · exact CallRecord.foldl_countLive_of_keeps _ keeps
  · rw [none_refused, Nat.zero_add]
    exact quiet.failingBuilds

theorem Tracks.released (tracks : device.Tracks total true) :
    (device.prepare releaseEntries 0 0).Tracks total false := by
  refine tracks.append rfl (tracks.lifetimes.released tracks.live) ?_ (Nat.zero_add _)
  rintro ⟨⟩ <;> rfl

theorem Tracks.built (tracks : device.Tracks total false) (extent : Extent) (scene : Scene)
    (count : Nat) : (device.prepare (buildEntries extent scene count) 0 0).Tracks total true := by
  refine tracks.append rfl (tracks.lifetimes.built tracks.live extent scene count) ?_
    (Nat.zero_add _)
  rintro ⟨⟩ <;> rfl

theorem Tracks.rescened (tracks : device.Tracks total true) (scene : Scene) :
    (device.prepare (Screen.pipelineCalls scene) 0 0).Tracks total true := by
  refine tracks.append rfl (tracks.lifetimes.rescened tracks.live scene) ?_ (Nat.zero_add _)
  rintro ⟨⟩ <;> rfl

/-- A surface that is refused changes nothing but the number of refusals. -/
theorem Tracks.refused (tracks : device.Tracks total false) (failing : 0 < device.failingBuilds)
    (extent : Extent) : (device.prepare [.refusedSurface extent] 0 1).Tracks total false := by
  refine tracks.append rfl (tracks.lifetimes.refused tracks.live extent) (fun kind => ?_) ?_
  · simp [CallRecord.refusedSurface, CallRecord.countLive]
  · exact Nat.add_sub_cancel' failing

theorem Tracks.refusals_prepare (tracks : device.Tracks total false) (sizes : Nat → Extent)
    {count : Nat} (enough : count ≤ device.failingBuilds) :
    (device.prepare (Screen.refusals sizes count) 0 count).Tracks total false := by
  induction count with
  | zero =>
    have none_refused : Screen.refusals sizes 0 = [] := rfl
    rwa [none_refused, prepare_nil]
  | succ count ih =>
    have before := ih (by omega)
    have failing : 0 < (device.prepare (Screen.refusals sizes count) 0 count).failingBuilds := by
      rw [failingBuilds_prepare]
      omega
    have after := before.refused failing (sizes count)
    rw [prepare_prepare] at after
    rw [Screen.refusals, List.range_succ, List.map_append]
    exact after

end MemoryDevice

namespace Screen

open MemoryDevice (Tracks)

variable {total : Nat} {live : Bool} {α : Type}

/-- A screen whose resources are live or not, and whose record shows it. -/
structure Stands (total : Nat) (live : Bool) (screen : Screen MemoryDevice) : Prop where
  isSome_eq : screen.life.resources.isSome = live
  tracks : screen.device.Tracks total live

/-- A screen whose record shows which resources are live. -/
def Tracked (total : Nat) (screen : Screen MemoryDevice) : Prop := ∃ live, screen.Stands total live

/-- A screen keeps its standing when calls are made that spare the resources. -/
theorem Stands.quiet {screen : Screen MemoryDevice} {device : MemoryDevice}
    (stands : screen.Stands total live) (quiet : screen.device.QuietTo device) :
    Stands total live { screen with device } :=
  ⟨stands.isSome_eq, stands.tracks.quiet quiet⟩

theorem keeps_onDevice {operation : DeviceM MemoryDevice α} (quiet : Quiet operation) :
    Keeps (Stands total live) (onDevice operation) := by
  intro screen stands
  have ended := quiet screen.device screen.device (.refl _)
  cases ran : operation screen.device with
  | ok value device =>
    rw [ran] at ended
    rw [onDevice_of_ok ran]
    exact stands.quiet ended
  | error fault device =>
    rw [ran] at ended
    rw [onDevice_of_error ran]
    exact fun roomy => stands.quiet (ended roomy)

theorem keeps_report (notice : Notice) : Keeps (Stands total live) (report notice) :=
  .modify fun _ stands => ⟨stands.isSome_eq, stands.tracks⟩

/-- A screen that was torn down has released its resources. -/
theorem ensures_teardown {failed : Screen MemoryDevice → Prop} :
    Ensures (Tracked total) teardown (fun _ => Stands total false) failed := by
  refine .of_ok cleared teardown_eq fun screen tracked => ⟨rfl, ?_⟩
  obtain ⟨live, isSome_eq, tracks⟩ := tracked
  rw [cleared, clearCalls, isSome_eq]
  cases live with
  | false => exact tracks.quiet (.of_added rfl rfl (by simp; rfl))
  | true => exact tracks.released

theorem keeps_openSlots (count : Nat) : Keeps (Stands total live) (openSlots count) :=
  Ensures.of_ok (opened count) (openSlots_eq count) fun _ stands =>
    ⟨stands.isSome_eq, stands.tracks.quiet (.of_added rfl rfl keeps_slotCalls)⟩

theorem keeps_replaceGuard (index : Nat) : Keeps (Stands total live) (replaceGuard index) := by
  refine .bind (keeps_onDevice (MemoryDevice.quiet_createFence true)) fun fence => ?_
  intro screen stands
  rw [get_bind]
  by_cases in_range : index < screen.slots.length
  · rw [then_apply in_range]
    exact ⟨stands.isSome_eq, stands.tracks⟩
  · rw [else_apply in_range]
    exact fun _ => stands

theorem keeps_fitSlots (imageCount : Nat) (affected : Option Nat) :
    Keeps (Stands total live) (fitSlots imageCount affected) := by
  refine .bind .get fun screen => .ite ?_ ?_
  · exact .bind (keeps_report _) fun _ => keeps_openSlots imageCount
  · cases affected with
    | none => exact .pure ()
    | some index => exact keeps_replaceGuard index

/-- Building the surface creates all resources or none; they are not installed yet. -/
theorem ensures_buildWithin (attempts : Nat) (extent : Extent) :
    Ensures (Stands total false) (buildWithin attempts extent)
      (fun _ screen => screen.device.Tracks total true) (Tracked total) := by
  intro screen stands
  have ended := buildWithin_end screen attempts extent
  generalize buildWithin attempts extent screen = result at ended
  cases ended with
  | built notices enough fits =>
    have refused := stands.tracks.refusals_prepare (attemptSize screen.life extent) Nat.le.refl
    have built := refused.built (attemptSize screen.life extent screen.device.failingBuilds)
      screen.life.scene screen.device.imageCount
    rw [MemoryDevice.prepare_prepare] at built
    exact built
  | exhausted notices few =>
    exact fun _ => ⟨false, stands.isSome_eq, stands.tracks.refusals_prepare _ few⟩
  | oversized notices enough unfit => exact fun roomy => absurd rfl roomy

theorem ensures_install {change : SurfaceLifecycle → SurfaceLifecycle}
    {failed : Screen MemoryDevice → Prop}
    (installs : ∀ life, (change life).resources.isSome = true) :
    Ensures (fun screen => screen.device.Tracks total true) (modifyLife change)
      (fun _ => Stands total true) failed :=
  fun screen tracks => ⟨installs screen.life, tracks⟩

/-- An operation that keeps the standing keeps a record that shows it. -/
theorem ensures_tracked {operation : ScreenM MemoryDevice α}
    (keeps : Keeps (Stands total live) operation) :
    Ensures (Stands total live) operation (fun _ => Tracked total) (Tracked total) :=
  keeps.weaken (fun _ _ stands => ⟨live, stands⟩) fun _ stands => ⟨live, stands⟩

/-- Rebuilding the surface releases and builds all resources. -/
theorem keeps_recreate (extent : Extent) (affected : Option Nat) :
    Keeps (Tracked total) (recreate extent affected) := by
  have ended {live : Bool} : Keeps (Stands total live) (do return (← get).life.state) :=
    .bind .get fun _ => .pure _
  refine Ensures.bind ensures_teardown fun _ => .ite (ensures_tracked ?_) (.get_bind fun _ => ?_)
  · refine .bind (keeps_report _) fun _ => ?_
    cases affected with
    | none => exact ended
    | some index => exact .bind (keeps_replaceGuard index) fun _ => ended
  · refine .bind (ensures_buildWithin _ extent) fun (size, resources) => ?_
    refine .bind (ensures_install fun _ => rfl) fun _ => ensures_tracked ?_
    exact .bind (keeps_fitSlots _ _) fun _ => .bind (keeps_report _) fun _ => ended

theorem keeps_recreatePending : Keeps (Tracked total) recreatePending := by
  refine .bind .get fun screen => ?_
  cases screen.life.pending with
  | none => exact .bind .get fun _ => .pure _
  | some extent =>
    exact .bind (.modify fun _ ⟨live, stands⟩ => ⟨live, stands.isSome_eq, stands.tracks⟩) fun _ =>
      keeps_recreate extent none

/-- Using the images of a live surface keeps its resources. -/
theorem keeps_onSwapchain (resources : SurfaceResources)
    {operation : Swapchain → DeviceM MemoryDevice (α × Swapchain)}
    (quiet : Quiet (operation resources.swapchain)) :
    Keeps (Stands total true) (onSwapchain resources operation) := by
  refine .bind (keeps_onDevice quiet) fun (value, swapchain) => ?_
  exact .bind (.modify fun _ stands => ⟨rfl, stands.tracks⟩) fun _ => .pure value

/-- An image is only handed out by a live surface. -/
theorem ensures_acquire (timeout : Duration) :
    Ensures (Tracked total) (acquire timeout)
      (fun answer screen => Tracked total screen ∧
        ∀ image, answer = .ready image → Stands total true screen)
      (Tracked total) := by
  rintro screen ⟨live, stands⟩
  unfold acquire
  rw [get_bind, get_bind]
  cases valid : screen.life.state with
  | recreating => exact ⟨⟨live, stands⟩, nofun⟩
  | valid =>
    cases held : screen.life.resources with
    | none => exact ⟨⟨live, stands⟩, nofun⟩
    | some resources =>
      have live_eq : live = true := by
        rw [← stands.isSome_eq, held]
        rfl
      obtain rfl := live_eq
      have kept : Keeps (Stands total true)
          (onSwapchain resources fun swapchain => GraphicsDevice.acquire swapchain timeout) :=
        keeps_onSwapchain resources (MemoryDevice.quiet_acquire _ timeout)
      refine kept.weaken (fun _ last stands => ⟨⟨true, stands⟩, fun _ _ => stands⟩)
        (fun last stands => ⟨true, stands⟩) screen stands

theorem keeps_rebuildScene (scene : Scene) : Keeps (Tracked total) (rebuildScene scene) := by
  refine Ensures.of_ok (rescened scene) (rebuildScene_eq scene) ?_
  rintro screen ⟨live, isSome_eq, tracks⟩
  refine ⟨live, ?_, ?_⟩
  · rw [← isSome_eq]
    exact Option.isSome_map
  · rw [rescened, isSome_eq]
    cases live with
    | false => exact tracks.quiet (.of_added rfl rfl fun _ none => absurd none List.not_mem_nil)
    | true => exact tracks.rescened scene

/-- A single build creates all resources or none. -/
theorem ensures_build (extent : Extent) (scene : Scene) :
    Ensures (Stands total false) (onDevice (SurfaceResources.build extent scene))
      (fun _ screen => screen.device.Tracks total true) (Stands total false) := by
  intro screen stands
  obtain ready | failing := Nat.eq_zero_or_pos screen.device.failingBuilds
  · obtain fits | unfit := Nat.lt_or_ge screen.device.imageCount Word.storageLimit
    · rw [onDevice_of_ok (SurfaceResources.build_of_ready ready fits)]
      exact stands.tracks.built extent scene screen.device.imageCount
    · rw [onDevice_of_error (SurfaceResources.build_of_oversized ready unfit)]
      exact fun roomy => absurd rfl roomy
  · rw [onDevice_of_error (SurfaceResources.build_of_failing failing)]
    exact fun _ => ⟨stands.isSome_eq, stands.tracks.refused failing extent⟩

theorem ensures_openSurface (extent : Extent) :
    Ensures (Stands total false) (openSurface extent) (fun _ => Tracked total)
      (Stands total false) := by
  refine .ite ?_ (.get_bind fun screen => .bind (ensures_build extent _) fun resources => ?_)
  · exact (keeps_report _).weaken (fun _ _ stands => ⟨false, stands⟩) fun _ => id
  · exact (ensures_install fun _ => rfl).weaken (fun _ _ stands => ⟨true, stands⟩) fun _ => id

end Screen

namespace FrameLoop

open CallRecord (Lifetimes CarefulFrom liveAfter)
open Screen (Stands Tracked)

variable {total : Nat} {live : Bool} {α : Type}

/-- The screen of a loop has a property. -/
def ScreenHas (property : Screen MemoryDevice → Prop) (loop : FrameLoop MemoryDevice) : Prop :=
  property loop.toScreen

/-- What an operation ensures of the screen, it ensures in the loop. -/
theorem ensures_onScreen {operation : ScreenM MemoryDevice α}
    {before failed : Screen MemoryDevice → Prop} {after : α → Screen MemoryDevice → Prop}
    (ensures : Ensures before operation after failed) :
    Ensures (ScreenHas before) (onScreen operation) (fun value => ScreenHas (after value))
      (ScreenHas failed) := by
  intro loop holds
  have ended := ensures loop.toScreen holds
  cases ran : operation loop.toScreen with
  | ok value screen =>
    rw [ran] at ended
    rw [onScreen_of_ok ran]
    exact ended
  | error fault screen =>
    rw [ran] at ended
    rw [onScreen_of_error ran]
    exact ended

theorem keeps_onScreen {motive : Screen MemoryDevice → Prop} {operation : ScreenM MemoryDevice α}
    (keeps : Keeps motive operation) : Keeps (ScreenHas motive) (onScreen operation) :=
  ensures_onScreen keeps

theorem keeps_onDevice {operation : DeviceM MemoryDevice α} (quiet : Quiet operation) :
    Keeps (ScreenHas (Stands total live)) (onDevice operation) :=
  keeps_onScreen (Screen.keeps_onDevice quiet)

theorem keeps_modifyDevice {change : MemoryDevice → MemoryDevice}
    (quiet : ∀ device : MemoryDevice, device.QuietTo (change device)) :
    Keeps (ScreenHas (Stands total live)) (onScreen (Screen.modifyDevice change)) :=
  keeps_onScreen (.modify fun screen stands => stands.quiet (quiet screen.device))

theorem keeps_check (value : Except Breach α) :
    Keeps (ScreenHas (Stands total live)) (check value) := by
  cases value with
  | error cause => exact .throw _
  | ok value => exact .pure value

theorem keeps_guardOf (slot : Nat) : Keeps (ScreenHas (Stands total live)) (guardOf slot) := by
  refine .bind .get fun loop => ?_
  split
  · exact .pure _
  · exact .throw _

theorem keeps_liveResources : Keeps (ScreenHas (Stands total live)) liveResources := by
  refine .bind .get fun loop => ?_
  split
  · exact .pure _
  · exact .throw _

/-- What keeps every standing keeps a record that shows it. -/
theorem keeps_tracked {operation : LoopM MemoryDevice α}
    (keeps : ∀ live, Keeps (ScreenHas (Stands total live)) operation) :
    Keeps (ScreenHas (Tracked total)) operation := by
  rintro loop ⟨live, stands⟩
  exact (keeps live).weaken (fun _ _ stands => ⟨live, stands⟩) (fun _ stands => ⟨live, stands⟩)
    loop stands

theorem keeps_compose (moment : Moment) (frame image : Nat) :
    Keeps (ScreenHas (Stands total true)) (compose moment frame image) := by
  have overlaid (device : MemoryDevice) :
      device.QuietTo (GraphicsDevice.renderOverlay frame device) :=
    ((QuietTo.refl device).note rfl).note rfl
  have uploaded (oldest newest : List Point) (device : MemoryDevice) :
      device.QuietTo (GraphicsDevice.uploadVertices oldest newest device) :=
    have noted : device.QuietTo (device.note (.uploadVertices oldest.length newest.length)) :=
      (QuietTo.refl device).note rfl
    noted.of_same rfl rfl
  have written (uniforms : Uniforms) (device : MemoryDevice) :
      device.QuietTo (GraphicsDevice.writeUniforms image uniforms device) :=
    have noted : device.QuietTo (device.note (.writeUniforms image)) :=
      (QuietTo.refl device).note rfl
    noted.of_same rfl rfl
  have recorded (resources : SurfaceResources) (overlay : List OverlayCommand) :
      Keeps (Stands total true) (Screen.onSwapchain resources fun swapchain => do
        return ((), ← GraphicsDevice.recordFrame swapchain image overlay)) :=
    Screen.keeps_onSwapchain resources
      (.bind (MemoryDevice.quiet_recordFrame _ image overlay) fun _ => MemoryDevice.quiet_pure _)
  refine .bind .get fun _ => .bind keeps_liveResources fun resources => .bind .get fun _ => ?_
  have drawn {moment : Moment} {style : VisualStyle} {overlay : List OverlayCommand} :
      Keeps (ScreenHas (Stands total true)) (do
        let history := moment.board.history
        onScreen (Screen.modifyDevice (GraphicsDevice.uploadVertices history.runs.1 history.runs.2))
        let uniforms ← check ((← get).camera.uniforms moment.time resources.extent history.layout
          history.rowCount style)
        onScreen (Screen.modifyDevice (GraphicsDevice.writeUniforms image uniforms))
        onScreen (Screen.onSwapchain resources fun swapchain => do
          return ((), ← GraphicsDevice.recordFrame swapchain image overlay))) := by
    refine .bind (keeps_modifyDevice (uploaded _ _)) fun _ => .bind .get fun _ => ?_
    refine .bind (keeps_check _) fun uniforms => ?_
    exact .bind (keeps_modifyDevice (written uniforms)) fun _ => keeps_onScreen (recorded _ _)
  exact .ite (.bind (keeps_modifyDevice overlaid) fun _ => drawn) drawn

theorem keeps_advance : Keeps (ScreenHas (Stands total live)) advance :=
  .modify fun _ stands => stands

theorem keeps_requestRecreate (extent : Extent) :
    Keeps (ScreenHas (Stands total live)) (onScreen (Screen.requestRecreate extent)) :=
  keeps_onScreen (.modify fun _ stands => ⟨stands.isSome_eq, stands.tracks⟩)

theorem keeps_draw (moment : Moment) (frame slot image : Nat) :
    Keeps (ScreenHas (Stands total true)) (draw moment frame slot image) := by
  refine .bind (keeps_compose moment frame image) fun _ => ?_
  refine .bind (keeps_guardOf slot) fun guard => ?_
  refine .bind keeps_liveResources fun resources => .bind (keeps_onScreen ?_) fun _ => ?_
  · exact Screen.keeps_onSwapchain resources
      (.bind (MemoryDevice.quiet_submit _ image guard) fun _ => MemoryDevice.quiet_pure _)
  refine .bind (keeps_onDevice (MemoryDevice.quiet_present image)) fun outcome => ?_
  refine .bind keeps_advance fun _ => .ite ?_ (.pure _)
  refine .bind (keeps_onScreen (Screen.keeps_report _)) fun _ => .bind .get fun _ => ?_
  exact .bind (keeps_requestRecreate _) fun _ => .pure _

theorem keeps_rebuildOutOfDate (frame slot : Nat) :
    Keeps (ScreenHas (Tracked total)) (rebuildOutOfDate frame slot) := by
  refine .bind .get fun _ => .bind (keeps_tracked fun _ => ?_) fun _ => ?_
  · exact keeps_onScreen (Screen.keeps_report _)
  refine .bind (keeps_onScreen (Screen.keeps_recreate _ _)) fun _ => ?_
  exact .bind (keeps_tracked fun _ => keeps_advance) fun _ => .pure _

theorem keeps_rebuildPending : Keeps (ScreenHas (Tracked total)) rebuildPending := by
  refine .bind .get fun _ => .ite ?_ (.pure _)
  refine .bind (keeps_onScreen Screen.keeps_recreatePending) fun _ => ?_
  exact .modify fun _ tracked => tracked

theorem keeps_turn (moment : Moment) : Keeps (ScreenHas (Tracked total)) (turn moment) := by
  refine .bind keeps_rebuildPending fun _ => .bind .get fun _ => .ite (.pure _) ?_
  refine .bind .get fun _ => .bind .get fun _ => .bind (keeps_tracked fun _ => keeps_guardOf _) ?_
  refine fun guard => .bind .get fun _ => .bind (keeps_tracked fun _ => ?_) fun signaled => ?_
  · exact keeps_onDevice (MemoryDevice.quiet_waitFence guard _)
  refine .ite (.throw _) (.bind (keeps_tracked fun _ => ?_) fun _ => .bind .get fun _ => ?_)
  · exact keeps_modifyDevice fun device =>
      have noted : device.QuietTo (device.note (.resetFence guard)) :=
        (QuietTo.refl device).note rfl
      noted.of_same rfl rfl
  refine Ensures.bind (ensures_onScreen (Screen.ensures_acquire _)) fun answer => ?_
  cases answer with
  | ready image =>
    rintro loop ⟨_, live⟩
    exact (keeps_draw moment _ _ image).weaken (fun _ _ stands => ⟨true, stands⟩)
      (fun _ stands => ⟨true, stands⟩) loop (live image rfl)
  | outOfDate => exact fun loop ⟨tracked, _⟩ => keeps_rebuildOutOfDate _ _ loop tracked
  | notReady =>
    have skipped (slot : Nat) : Keeps (ScreenHas (Tracked total)) (do
        onScreen (Screen.replaceGuard slot)
        return TurnOutcome.skipped) :=
      .bind (keeps_tracked fun _ => keeps_onScreen (Screen.keeps_replaceGuard slot)) fun _ =>
        .pure _
    exact fun loop ⟨tracked, _⟩ => skipped _ loop tracked
  | timeout => exact fun loop ⟨tracked, _⟩ _ => tracked

theorem keeps_resize (extent : Extent) : Keeps (ScreenHas (Tracked total)) (resize extent) :=
  .bind (.modify fun _ tracked => tracked) fun _ =>
    keeps_tracked fun _ => keeps_requestRecreate extent

theorem keeps_selectScene (scene : Scene) :
    Keeps (ScreenHas (Tracked total)) (selectScene scene) := by
  have rescened : Keeps (ScreenHas (Tracked total)) (do
      onScreen (Screen.rebuildScene scene)
      onScreen (Screen.report (.sceneSelected scene))) :=
    .bind (keeps_onScreen (Screen.keeps_rebuildScene scene)) fun _ =>
      keeps_tracked fun _ => keeps_onScreen (Screen.keeps_report _)
  refine .bind .get fun _ => .ite (.ite ?_ rescened) (.pure _)
  refine .bind (keeps_tracked fun _ => keeps_onDevice (MemoryDevice.quiet_note rfl)) fun _ => ?_
  refine .bind .get fun _ => .bind (keeps_tracked fun _ => keeps_check _) fun indices => ?_
  refine .bind (keeps_tracked fun _ => ?_) fun _ => rescened
  exact keeps_onDevice (MemoryDevice.quiet_uploadIndices indices)

theorem keeps_awaitGuards (index : Nat) (slots : List FrameSlot) :
    Keeps (ScreenHas (Stands total live)) (awaitGuards index slots) := by
  induction slots generalizing index with
  | nil => exact .pure _
  | cons slot rest ih =>
    refine .bind .get fun _ => .bind (keeps_onDevice (MemoryDevice.quiet_waitFence _ _)) fun _ => ?_
    exact .ite (.bind (keeps_onScreen (Screen.keeps_report _)) fun _ => ih _) (ih _)

theorem keeps_shutdown : Keeps (ScreenHas (Tracked total)) shutdown := by
  refine .bind .get fun _ => .bind (keeps_tracked fun _ => keeps_awaitGuards 0 _) fun _ => ?_
  have torn_down : Keeps (Tracked total) Screen.teardown :=
    Screen.ensures_teardown.weaken (fun _ _ stands => ⟨false, stands⟩) fun _ => id
  exact keeps_onScreen torn_down

/-- Every call but new settings keeps a record that shows which resources are live. -/
theorem tracked_run {call : LoopCall} {loop : FrameLoop MemoryDevice}
    (tracked : loop.toScreen.Tracked total) (same : ∀ settings, call ≠ .configure settings)
    (roomy : (call.run loop).1 ≠ .failed (.breach .overflow)) :
    (call.run loop).2.toScreen.Tracked total := by
  have ended := call.run_end loop
  generalize call.run loop = result at ended roomy
  cases ended with
  | @turned moment outcome after ran =>
    have kept := keeps_turn moment loop tracked
    rwa [ran] at kept
  | @turnFailed moment fault after ran =>
    have kept := keeps_turn moment loop tracked
    rw [ran] at kept
    exact kept fun breach => roomy (congrArg LoopReport.failed breach)
  | resized extent => exact keeps_resize extent loop tracked
  | @selected scene after ran =>
    have kept := keeps_selectScene scene loop tracked
    rwa [ran] at kept
  | @selectFailed scene fault after ran =>
    have kept := keeps_selectScene scene loop tracked
    rw [ran] at kept
    exact kept fun breach => roomy (congrArg LoopReport.failed breach)
  | shutDown ran =>
    have kept := keeps_shutdown loop tracked
    rwa [ran] at kept
  | configured settings => exact absurd rfl (same settings)

/-- The loops that calls lead to, one after the other. No call was broken off for want of room.
Between two calls the device may be changed in every way that leaves its record alone. -/
inductive Reaches (start : FrameLoop MemoryDevice) : FrameLoop MemoryDevice → Prop
  | start : Reaches start start
  | run {loop : FrameLoop MemoryDevice} (reached : Reaches start loop) (call : LoopCall)
      (roomy : (call.run loop).1 ≠ .failed (.breach .overflow)) : Reaches start (call.run loop).2
  | changed {loop : FrameLoop MemoryDevice} (reached : Reaches start loop) (device : MemoryDevice)
      (same : device.calls = loop.device.calls) : Reaches start { loop with device }

/-- A sequence of calls leads somewhere, unless one of them was broken off for want of room. -/
theorem Reaches.replay {start : FrameLoop MemoryDevice} (calls : List LoopCall)
    (roomy : LoopReport.failed (.breach .overflow) ∉ (FrameLoop.replay calls start).1) :
    Reaches start (FrameLoop.replay calls start).2 := by
  let motive (reports : List LoopReport) (loop : FrameLoop MemoryDevice) : Prop :=
    LoopReport.failed (.breach .overflow) ∉ reports → Reaches start loop
  have step : ∀ call ∈ calls, ∀ reports loop, motive reports loop →
      motive (reports ++ [(call.run loop).1]) (call.run loop).2 := by
    intro call _ reports loop reaches roomy
    have reached := reaches fun member => roomy (List.mem_append_left _ member)
    exact reached.run call fun same => roomy (by simp [same])
  have start_reached : motive [] start := fun _ => .start
  exact replay_keeps step start_reached rfl roomy

/-- A device whose record is the same tracks the same resources, with a total of its own. -/
theorem tracked_of_same {loop : FrameLoop MemoryDevice} {device : MemoryDevice}
    (tracked : loop.toScreen.Tracked total) (same : device.calls = loop.device.calls) :
    Screen.Tracked (device.refusals + device.failingBuilds) { loop.toScreen with device } := by
  obtain ⟨live, isSome_eq, tracks⟩ := tracked
  refine ⟨live, isSome_eq, ?_, ?_, rfl⟩
  · rw [same]
    exact tracks.lifetimes
  · rw [same]
    exact tracks.live

theorem tracked_of_reaches {start after : FrameLoop MemoryDevice}
    (tracked : start.toScreen.Tracked total) (reached : start.Reaches after) :
    ∃ total, after.toScreen.Tracked total := by
  induction reached with
  | start => exact ⟨total, tracked⟩
  | @run loop reached call roomy ih =>
    obtain ⟨total, tracked⟩ := ih
    cases call with
    | configure settings => exact ⟨_, tracked_of_same tracked rfl⟩
    | _ => exact ⟨total, tracked_run tracked nofun roomy⟩
  | changed reached device same ih =>
    obtain ⟨total, tracked⟩ := ih
    exact ⟨_, tracked_of_same tracked same⟩

/-- A loop that starts builds all resources or none; one that cannot start has none. -/
theorem ensures_start (framesInFlight : Nat) :
    Ensures (ScreenHas (Stands total false)) (start framesInFlight)
      (fun _ => ScreenHas (Tracked total)) (ScreenHas (Stands total false)) := by
  -- Nothing fails any more once the surface was opened.
  have opened (count : Nat) : Ensures (ScreenHas (Tracked total))
      (onScreen (Screen.openSlots count)) (fun _ => ScreenHas (Tracked total))
      (ScreenHas (Stands total false)) := by
    refine ensures_onScreen (.of_ok (Screen.opened count) (Screen.openSlots_eq count) ?_)
    rintro screen ⟨live, stands⟩
    exact ⟨live, stands.isSome_eq, stands.tracks.quiet (.of_added rfl rfl Screen.keeps_slotCalls)⟩
  refine .bind Keeps.get fun _ => .get_bind fun _ => .bind (keeps_check _) fun indices => ?_
  refine .bind (keeps_onDevice (MemoryDevice.quiet_uploadIndices indices)) fun _ => ?_
  refine .bind (keeps_onDevice MemoryDevice.quiet_windowExtent) fun extent => ?_
  refine .bind (ensures_onScreen (Screen.ensures_openSurface extent)) fun _ => ?_
  refine .get_bind fun _ => .bind (opened _) fun _ => ?_
  rintro loop ⟨live, isSome_eq, tracks⟩
  exact ⟨live, isSome_eq, tracks⟩

/-- Without resources there is nothing to release. -/
theorem releaseResources_of_none {loop : FrameLoop MemoryDevice}
    (stands : loop.toScreen.Stands total false) :
    onScreen Screen.releaseResources loop = .ok () loop := by
  have idle : Screen.releaseResources loop.toScreen = .ok () loop.toScreen := by
    unfold Screen.releaseResources
    rw [get_bind, else_apply (Bool.eq_false_iff.mp stands.isSome_eq)]
    rfl
  exact onScreen_of_ok idle

/-- A loop that was created has built all resources or none; one that could not be created has
none. -/
theorem tracked_of_create {config : RenderConfig} {camera : Camera} {layout : Layout}
    {overlay : Overlay} {device : MemoryDevice} (unused : device.calls = [])
    (roomy : Roomy (create config camera layout overlay device)) :
    Tracked device.failingBuilds
      (leftBy (create config camera layout overlay device)).toScreen := by
  let bare := unstarted config camera layout overlay device
  have unborn : bare.toScreen.Stands device.failingBuilds false := by
    refine ⟨rfl, ?_, ?_, ?_⟩
    · exact unused ▸ .start
    · intro kind
      exact congrArg (liveAfter kind) unused
    · rw [MemoryDevice.refusals, show bare.device.calls = [] from unused]
      exact Nat.zero_add _
  have started := ensures_start config.framesInFlight bare unborn
  unfold create at roomy ⊢
  generalize start config.framesInFlight bare = result at started roomy ⊢
  cases result with
  | ok _ loop => exact started
  | error fault loop =>
    dsimp only at started roomy ⊢
    have roomy : fault ≠ .breach .overflow := by
      split at roomy <;> exact roomy
    rw [releaseResources_of_none (started roomy)]
    exact ⟨false, started roomy⟩

/-- The journal of a run shows resources that are built together, while none is live, and released
together, while all are; every entry finds what it needs, and every surface that was refused has an
entry. -/
theorem lifetimes_of_reaches {config : RenderConfig} {camera : Camera} {layout : Layout}
    {overlay : Overlay} {device : MemoryDevice} {after : FrameLoop MemoryDevice}
    (unused : device.calls = []) (roomy : Roomy (create config camera layout overlay device))
    (reached : Reaches (leftBy (create config camera layout overlay device)) after) :
    after.device.journal = after.device.entries.filterMap MemoryDevice.journalText? ∧
      Lifetimes after.device.entries ∧ CarefulFrom (fun _ => 0) after.device.entries ∧
      (∀ kind, liveAfter kind after.device.entries =
        if after.life.resources.isSome then 1 else 0) ∧
      ∀ call : LoopCall, (∀ settings, call ≠ .configure settings) →
        (call.run after).1 ≠ .failed (.breach .overflow) →
        (call.run after).2.device.entries.countP CallRecord.isRefusal +
            (call.run after).2.device.failingBuilds =
          after.device.entries.countP CallRecord.isRefusal + after.device.failingBuilds := by
  have tracked := tracked_of_create unused roomy
  obtain ⟨total, live, isSome_eq, tracks⟩ := tracked_of_reaches tracked reached
  have lifetimes := MemoryDevice.lifetimes_filter tracks.lifetimes
  refine ⟨MemoryDevice.journal_eq _, lifetimes, lifetimes.careful, ?_, ?_⟩
  · intro kind
    rw [isSome_eq, MemoryDevice.entries, MemoryDevice.liveAfter_filter]
    exact tracks.live kind
  · intro call same roomy
    obtain ⟨_, _, kept⟩ := tracked_run ⟨live, isSome_eq, tracks⟩ same roomy
    rw [MemoryDevice.countP_entries, MemoryDevice.countP_entries, tracks.refusals, kept.refusals]

/-- A surface without images is rebuilt once, at the second attempt, changes its scene and is
released. -/
theorem lifetimes_of_refused_rebuild :
    ∃ after,
      Reaches (leftBy (create {} {} ⟨2, 2⟩ {} { window := ⟨4, 3⟩, imageCount := 0 })) after ∧
        after.device.entries.countP CallRecord.isRefusal = 1 ∧
        Lifetimes after.device.entries ∧
        ∀ kind, liveAfter kind after.device.entries = 0 := by
  let calls : List LoopCall :=
    [.configure { window := ⟨4, 3⟩, failingBuilds := 1 }, .resize ⟨5, 5⟩,
      .turn ⟨0, History.create .origin ⟨2, 2⟩ (by decide), .identity⟩,
      .select { style := .points }, .shutdown]
  let device : MemoryDevice := { window := ⟨4, 3⟩, imageCount := 0 }
  let start := leftBy (create {} {} ⟨2, 2⟩ {} device)
  have created : Roomy (create {} {} ⟨2, 2⟩ {} device) := trivial
  have roomy : LoopReport.failed (.breach .overflow) ∉ (replay calls start).1 := by decide +kernel
  have refused : (replay calls start).2.device.entries.countP CallRecord.isRefusal = 1 := by
    decide +kernel
  have gone : (replay calls start).2.life.resources.isSome = false := by decide +kernel
  have reached := Reaches.replay calls roomy
  obtain ⟨_, lifetimes, _, live, _⟩ := lifetimes_of_reaches rfl created reached
  refine ⟨_, reached, refused, lifetimes, fun kind => ?_⟩
  rw [live kind, gone]
  rfl

end FrameLoop

end Waterfall

import Waterfall.Frame.Loop
import Waterfall.Proofs.Surface.Build

/-! # Drawing a frame on a device in memory

What each call of a frame does to the device, and the two ends of drawing: the frame is presented,
or the board's points cannot be counted.
-/

namespace Waterfall

namespace MemoryDevice

/-- The device after a fence was waited for. -/
def awaited (guard : FenceId) (timeout : Duration) (device : MemoryDevice) : MemoryDevice :=
  device.note (.waitFence guard timeout)

/-- The device after it was asked for an image. -/
def acquired (timeout : Duration) (device : MemoryDevice) : MemoryDevice :=
  { device.note (.acquire timeout) with acquires := device.acquires + 1 }

/-- The device after a guard was waited for and reset and an image asked for. -/
def asked (guard : FenceId) (guardTimeout acquireTimeout : Duration) (device : MemoryDevice) :
    MemoryDevice :=
  { device with
    calls := device.calls ++
      [.accepted (.waitFence guard guardTimeout), .accepted (.resetFence guard),
        .accepted (.acquire acquireTimeout)]
    fences := device.fences.set (guard - 1) false
    acquires := device.acquires + 1 }

/-- The calls that render the overlay of a frame. -/
def overlayCalls (overlay : Overlay) (frame : Nat) : List CallRecord :=
  if overlay.commandsPerFrame ≠ 0 then
    [.accepted .overlayStart, .accepted (.overlayRender frame)]
  else []

/-- The device after the overlay was rendered and a history uploaded. -/
def loaded (overlay : Overlay) (frame : Nat) (history : History Point) (device : MemoryDevice) :
    MemoryDevice :=
  let oldest := history.runs.1.length
  let newest := history.runs.2.length
  { device with
    calls := device.calls ++
      (overlayCalls overlay frame ++ [.accepted (.uploadVertices oldest newest)])
    uploadedPoints := oldest + newest }

/-- The device after the commands of an image were recorded. -/
def composed (overlay : Overlay) (frame image : Nat) (uniforms : Uniforms)
    (device : MemoryDevice) : MemoryDevice :=
  { device with
    calls := device.calls ++
      [.accepted (.writeUniforms image), .accepted (.recordFrame image (overlay.commands frame))]
    uniforms := some uniforms
    overlaySeen := device.overlaySeen ++ (overlay.commands frame).map (·.frame) }

/-- The device after a recorded image was submitted. -/
def submitted (image : Nat) (guard : FenceId) (device : MemoryDevice) : MemoryDevice :=
  { device with
    calls := device.calls ++ [.accepted (.submit image guard true device.holdSubmissions)]
    fences :=
      if device.holdSubmissions then device.fences else device.fences.set (guard - 1) true }

/-- The device after an image was presented. -/
def shown (image : Nat) (device : MemoryDevice) : MemoryDevice :=
  { device with
    calls := device.calls ++ [.accepted (.present image)]
    presents := device.presents + 1 }

/-- The calls that draw a frame, from its overlay to its presentation. -/
def drawCalls (overlay : Overlay) (frame : Nat) (history : History Point) (image : Nat)
    (guard : FenceId) (held : Bool) : List CallRecord :=
  overlayCalls overlay frame ++
    [.accepted (.uploadVertices history.runs.1.length history.runs.2.length),
      .accepted (.writeUniforms image), .accepted (.recordFrame image (overlay.commands frame)),
      .accepted (.submit image guard true held), .accepted (.present image)]

/-- The device after a frame was drawn and presented. -/
def drawn (overlay : Overlay) (frame : Nat) (history : History Point) (uniforms : Uniforms)
    (image : Nat) (guard : FenceId) (device : MemoryDevice) : MemoryDevice :=
  { device with
    calls := device.calls ++ drawCalls overlay frame history image guard device.holdSubmissions
    fences :=
      if device.holdSubmissions then device.fences else device.fences.set (guard - 1) true
    uploadedPoints := history.runs.1.length + history.runs.2.length
    uniforms := some uniforms
    overlaySeen := device.overlaySeen ++ (overlay.commands frame).map (·.frame)
    presents := device.presents + 1 }

variable {device : MemoryDevice} {swapchain : Swapchain} {image : Nat}

theorem acquired_eq_asked (guard : FenceId) (guardTimeout acquireTimeout : Duration) :
    (resetFence guard (device.awaited guard guardTimeout)).acquired acquireTimeout =
      device.asked guard guardTimeout acquireTimeout := by
  simp [resetFence, setSignaled, awaited, acquired, asked, note, CallRecord.accepted]

theorem shown_eq_drawn {overlay : Overlay} {frame : Nat} {history : History Point}
    {uniforms : Uniforms} {guard : FenceId} :
    (((device.loaded overlay frame history).composed overlay frame image uniforms).submitted image
        guard).shown image =
      device.drawn overlay frame history uniforms image guard := by
  simp [loaded, composed, submitted, shown, drawn, drawCalls]

theorem waitFence_eq (guard : FenceId) (timeout : Duration) (device : MemoryDevice) :
    waitFence guard timeout device =
      .ok (device.isSignaled guard) (device.awaited guard timeout) := rfl

theorem acquire_of_outOfDate {timeout : Duration}
    (outdated : device.acquires ∈ device.outOfDateOn) :
    acquire swapchain timeout device = .ok (.outOfDate, swapchain) (device.acquired timeout) := by
  unfold acquire
  refine (modify_bind _ _ _).trans ((get_bind _ _).trans ((modify_bind _ _ _).trans ?_))
  exact (get_bind _ _).trans (then_apply (List.contains_iff_mem.mpr outdated) _)

theorem acquire_of_timeout {timeout : Duration} (current : device.acquires ∉ device.outOfDateOn)
    (late : device.acquires ∈ device.timeoutOn) :
    acquire swapchain timeout device = .ok (.timeout, swapchain) (device.acquired timeout) := by
  unfold acquire
  refine (modify_bind _ _ _).trans ((get_bind _ _).trans ((modify_bind _ _ _).trans ?_))
  refine (get_bind _ _).trans ((else_apply (mt List.contains_iff_mem.mp current) _).trans ?_)
  exact (get_bind _ _).trans (then_apply (List.contains_iff_mem.mpr late) _)

theorem acquire_of_ready {timeout : Duration} (current : device.acquires ∉ device.outOfDateOn)
    (prompt : device.acquires ∉ device.timeoutOn) (images : swapchain.imageCount ≠ 0) :
    acquire swapchain timeout device =
      .ok (.ready swapchain.nextImage,
          { swapchain with nextImage := (swapchain.nextImage + 1) % swapchain.imageCount })
        (device.acquired timeout) := by
  unfold acquire
  refine (modify_bind _ _ _).trans ((get_bind _ _).trans ((modify_bind _ _ _).trans ?_))
  refine (get_bind _ _).trans ((else_apply (mt List.contains_iff_mem.mp current) _).trans ?_)
  refine (get_bind _ _).trans ((else_apply (mt List.contains_iff_mem.mp prompt) _).trans ?_)
  exact else_apply images _

theorem recordFrame_of_lt {overlay : Overlay} {frame : Nat} {uniforms : Uniforms}
    (image_lt : image < swapchain.imageCount) :
    recordFrame swapchain image (overlay.commands frame)
        (GraphicsDevice.writeUniforms image uniforms device) =
      .ok (swapchain.markRecorded image) (device.composed overlay frame image uniforms) := by
  unfold recordFrame
  refine (modify_bind _ _ _).trans ((modify_bind _ _ _).trans ?_)
  refine (else_apply (Nat.not_le.mpr image_lt) _).trans ?_
  simp [composed, note, GraphicsDevice.writeUniforms, CallRecord.accepted]

theorem submit_of_recorded {guard : FenceId} (image_lt : image < swapchain.imageCount)
    (recorded : swapchain.isRecorded image = true) :
    submit swapchain image guard device =
      .ok (swapchain.clearRecorded image) (device.submitted image guard) := by
  unfold submit
  simp only [recorded]
  refine (modify_bind _ _ _).trans ?_
  refine (else_apply (Nat.not_le.mpr image_lt) _).trans ?_
  refine (else_apply (by decide) _).trans ((modify_bind _ _ _).trans ?_)
  cases held : device.holdSubmissions <;>
    simp [submitted, held, note, setSignaled, CallRecord.accepted]

theorem uploadVertices_eq {overlay : Overlay} {frame : Nat} {history : History Point}
    (bare : ¬overlay.commandsPerFrame ≠ 0) :
    GraphicsDevice.uploadVertices history.runs.1 history.runs.2 device =
      device.loaded overlay frame history := by
  simp only [loaded, overlayCalls, if_neg bare]
  rfl

theorem uploadVertices_renderOverlay {overlay : Overlay} {frame : Nat} {history : History Point}
    (overlaid : overlay.commandsPerFrame ≠ 0) :
    GraphicsDevice.uploadVertices history.runs.1 history.runs.2
        (GraphicsDevice.renderOverlay frame device) =
      device.loaded overlay frame history := by
  simp only [loaded, overlayCalls, if_pos overlaid]
  simp [GraphicsDevice.uploadVertices, GraphicsDevice.renderOverlay, note, CallRecord.accepted]

theorem present_of_suboptimal (changed : device.presents ∈ device.suboptimalOn) :
    present image device = .ok .suboptimal (device.shown image) := by
  have value : (if device.suboptimalOn.contains device.presents then Presented.suboptimal
      else .presented) = .suboptimal := if_pos (List.contains_iff_mem.mpr changed)
  unfold present
  refine (modify_bind _ _ _).trans ((get_bind _ _).trans ((modify_bind _ _ _).trans ?_))
  exact (get_bind _ _).trans (congrArg (EStateM.Result.ok · (device.shown image)) value)

theorem present_of_unchanged (unchanged : device.presents ∉ device.suboptimalOn) :
    present image device = .ok .presented (device.shown image) := by
  have value : (if device.suboptimalOn.contains device.presents then Presented.suboptimal
      else .presented) = .presented := if_neg (mt List.contains_iff_mem.mp unchanged)
  unfold present
  refine (modify_bind _ _ _).trans ((get_bind _ _).trans ((modify_bind _ _ _).trans ?_))
  exact (get_bind _ _).trans (congrArg (EStateM.Result.ok · (device.shown image)) value)

end MemoryDevice

namespace SurfaceResources

/-- The resources after the next image was handed out. -/
def handedOut (resources : SurfaceResources) : SurfaceResources :=
  { resources with
    swapchain :=
      { resources.swapchain with
        nextImage := (resources.swapchain.nextImage + 1) % resources.imageCount } }

/-- The resources after a frame was recorded for an image. -/
def recorded (image : Nat) (resources : SurfaceResources) : SurfaceResources :=
  { resources with swapchain := resources.swapchain.markRecorded image }

/-- The resources after a recorded frame was submitted. -/
def submitted (image : Nat) (resources : SurfaceResources) : SurfaceResources :=
  { resources with swapchain := resources.swapchain.clearRecorded image }

theorem isRecorded_recorded (image : Nat) (resources : SurfaceResources) :
    (resources.recorded image).swapchain.isRecorded image = true := by
  simp [recorded, Swapchain.markRecorded, Swapchain.isRecorded]

end SurfaceResources

namespace FrameLoop

variable {loop : FrameLoop MemoryDevice} {resources : SurfaceResources} {moment : Moment}

/-- The uniforms of the next frame. -/
def uniformsFor (moment : Moment) (resources : SurfaceResources) (loop : FrameLoop MemoryDevice) :
    Except Breach Uniforms :=
  loop.camera.uniforms moment.time resources.extent moment.board.history.layout
    moment.board.history.rowCount loop.life.scene.style

/-- The loop after the history was uploaded for the next frame. -/
def loaded (moment : Moment) (loop : FrameLoop MemoryDevice) : FrameLoop MemoryDevice :=
  { loop with device := loop.device.loaded loop.overlay loop.frame moment.board.history }

/-- The loop after the commands of the next frame were recorded. -/
def composed (moment : Moment) (resources : SurfaceResources) (uniforms : Uniforms) (image : Nat)
    (loop : FrameLoop MemoryDevice) : FrameLoop MemoryDevice :=
  { loop with
    device := (loop.loaded moment).device.composed loop.overlay loop.frame image uniforms
    life := { loop.life with resources := some (resources.recorded image) } }

/-- The loop after the next frame was presented. -/
def drawn (moment : Moment) (resources : SurfaceResources) (uniforms : Uniforms) (image : Nat)
    (guard : FenceId) (loop : FrameLoop MemoryDevice) : FrameLoop MemoryDevice :=
  { loop with
    device :=
      loop.device.drawn loop.overlay loop.frame moment.board.history uniforms image guard
    life :=
      { loop.life with
        resources := some ((resources.recorded image).submitted image)
        pending :=
          if loop.device.presents ∈ loop.device.suboptimalOn then some loop.windowExtent
          else loop.life.pending }
    frame := loop.frame + 1
    slot := (loop.slot + 1) % loop.slots.length }

theorem liveResources_of_some (live : loop.life.resources = some resources) :
    liveResources loop = .ok resources loop := by
  refine (get_bind _ _).trans ?_
  rw [live]
  rfl

theorem guardOf_of_some {slot : Nat} {guard : FenceId}
    (guarded : loop.slots[slot]? = some ⟨guard⟩) :
    guardOf slot loop = .ok guard loop := by
  refine (get_bind _ _).trans ?_
  rw [guarded]
  rfl

/-- Up to the uniforms, composing a frame does the same in every case. -/
theorem compose_eq (image : Nat) (live : loop.life.resources = some resources) :
    compose moment loop.frame image loop =
      (do
        let uniforms ← check (loop.uniformsFor moment resources)
        onScreen (Screen.modifyDevice (GraphicsDevice.writeUniforms image uniforms))
        onScreen (Screen.onSwapchain resources fun swapchain => do
          return ((), ← GraphicsDevice.recordFrame swapchain image
            (loop.overlay.commands loop.frame))) : LoopM MemoryDevice Unit)
        (loop.loaded moment) := by
  unfold compose
  refine (get_bind _ _).trans ((bind_of_ok (liveResources_of_some live)).trans ?_)
  refine (get_bind _ _).trans ?_
  by_cases overlaid : loop.overlay.commandsPerFrame ≠ 0
  · refine (then_apply overlaid _).trans ?_
    refine (modify_bind _ _ _).trans ((modify_bind _ _ _).trans ((get_bind _ _).trans ?_))
    rw [loaded, ← MemoryDevice.uploadVertices_renderOverlay overlaid]
    rfl
  · refine (else_apply overlaid _).trans ?_
    refine (modify_bind _ _ _).trans ((get_bind _ _).trans ?_)
    rw [loaded, ← MemoryDevice.uploadVertices_eq overlaid]
    rfl

/-- Without a count of the board's points there are no uniforms. -/
theorem compose_of_error (image : Nat) {cause : Breach}
    (live : loop.life.resources = some resources)
    (uncounted : loop.uniformsFor moment resources = .error cause) :
    compose moment loop.frame image loop = .error (.breach cause) (loop.loaded moment) := by
  rw [compose_eq image live, uncounted]
  rfl

theorem compose_of_ok {image : Nat} {uniforms : Uniforms}
    (live : loop.life.resources = some resources)
    (counted : loop.uniformsFor moment resources = .ok uniforms)
    (image_lt : image < resources.imageCount) :
    compose moment loop.frame image loop =
      .ok () (loop.composed moment resources uniforms image) := by
  rw [compose_eq image live, counted]
  refine (bind_of_ok (check_of_ok uniforms _)).trans ((modify_bind _ _ _).trans ?_)
  exact onScreen_of_ok (Screen.onSwapchain_of_ok
    (bind_of_ok (MemoryDevice.recordFrame_of_lt image_lt)))

/-- A frame whose uniforms are known is drawn with the guard of the current slot. -/
theorem draw_of_ok {image : Nat} {uniforms : Uniforms} {guard : FenceId}
    (live : loop.life.resources = some resources)
    (counted : loop.uniformsFor moment resources = .ok uniforms)
    (image_lt : image < resources.imageCount)
    (guarded : loop.slots[loop.slot]? = some ⟨guard⟩) :
    ∃ notices, draw moment loop.frame loop.slot image loop =
      .ok (.presented loop.frame loop.slot)
        { loop.drawn moment resources uniforms image guard with notices } := by
  let composed := loop.composed moment resources uniforms image
  have guarded_composed : guardOf loop.slot composed = .ok guard composed :=
    guardOf_of_some guarded
  have live_composed : liveResources composed = .ok (resources.recorded image) composed :=
    liveResources_of_some rfl
  have submitted : MemoryDevice.submit (resources.recorded image).swapchain image guard
      composed.device = .ok _ (composed.device.submitted image guard) :=
    MemoryDevice.submit_of_recorded image_lt
      (SurfaceResources.isRecorded_recorded image resources)
  let sent : FrameLoop MemoryDevice :=
    { composed with
      device := composed.device.submitted image guard
      life :=
        { composed.life with resources := some ((resources.recorded image).submitted image) } }
  unfold draw
  rw [bind_of_ok (compose_of_ok live counted image_lt), bind_of_ok guarded_composed,
    bind_of_ok live_composed,
    bind_of_ok (onScreen_of_ok (Screen.onSwapchain_of_ok (bind_of_ok submitted)))]
  by_cases changed : loop.device.presents ∈ loop.device.suboptimalOn
  · have presented : onDevice (GraphicsDevice.present image) sent = .ok .suboptimal _ :=
      onDevice_of_ok (MemoryDevice.present_of_suboptimal changed)
    refine ⟨loop.notices ++ [.presentationDegraded .suboptimal], (bind_of_ok presented).trans ?_⟩
    refine (modify_bind _ _ _).trans ((then_apply (by decide) _).trans ?_)
    rw [drawn, if_pos changed, ← MemoryDevice.shown_eq_drawn]
    rfl
  · have presented : onDevice (GraphicsDevice.present image) sent = .ok .presented _ :=
      onDevice_of_ok (MemoryDevice.present_of_unchanged changed)
    refine ⟨loop.notices, (bind_of_ok presented).trans ?_⟩
    refine (modify_bind _ _ _).trans ((else_apply (by decide) _).trans ?_)
    rw [drawn, if_neg changed, ← MemoryDevice.shown_eq_drawn]
    rfl

end FrameLoop

end Waterfall

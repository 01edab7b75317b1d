import Waterfall.Frame.Config
import Waterfall.Mesh
import Waterfall.Spectrum.Board
import Waterfall.Surface.Screen

/-! # The frame loop

The loop turns over the frame slots: a turn waits for the guard of the current slot, acquires an
image, records and submits a frame and presents it. A turn that meets an out-of-date surface
rebuilds it instead, and a turn without a surface does nothing. Frame `k` of a surface with `n`
images uses slot `k mod n`.
-/

namespace Waterfall

/-- What one turn did. -/
inductive TurnOutcome
  /-- The frame was submitted and presented with the slot. -/
  | presented (frame slot : Nat)
  /-- The frame met an out-of-date surface with the slot, and the surface was rebuilt. -/
  | recreated (frame slot : Nat)
  /-- There was no surface to draw to. -/
  | skipped
deriving DecidableEq, Repr, Inhabited

/-- A turn in words. -/
def TurnOutcome.text : TurnOutcome → String
  | presented frame slot => s!"Presented \x7b frame: {frame}, slot: {slot} \x7d"
  | recreated frame slot => s!"Recreated \x7b frame: {frame}, slot: {slot} \x7d"
  | skipped => "Skipped"

/-- An overlay that adds a fixed number of commands to every frame; with none it is never asked. -/
structure Overlay where
  commandsPerFrame : Nat := 0
deriving DecidableEq, Repr, Inhabited

/-- The commands that an overlay adds to a frame. -/
def Overlay.commands (overlay : Overlay) (frame : Nat) : List OverlayCommand :=
  (List.range overlay.commandsPerFrame).map fun index => ⟨frame, index⟩

/-- What a turn reads from outside: the seconds since the loop began, and the board. -/
structure Moment where
  time : Float32
  board : Board

/-- The frame loop on a screen. -/
structure FrameLoop (δ : Type) extends Screen δ where
  /-- The slot of the next frame. -/
  slot : Nat := 0
  /-- The frames so far, presented or spent on a rebuild. -/
  frame : Nat := 0
  guardTimeout : Duration
  acquireTimeout : Duration
  layout : Layout
  /-- The window size reported last. -/
  windowExtent : Extent := ⟨0, 0⟩
  overlay : Overlay := {}
  camera : Camera := {}

/-- An operation of the frame loop; a failure keeps the changes made before it. -/
abbrev LoopM (δ : Type) := EStateM Fault (FrameLoop δ)

namespace FrameLoop

variable {δ : Type} [GraphicsDevice δ]

omit [GraphicsDevice δ] in
/-- An operation of the screen, in the loop. -/
def onScreen {α : Type} (operation : ScreenM δ α) : LoopM δ α := fun loop =>
  match operation loop.toScreen with
  | .ok value screen => .ok value { loop with toScreen := screen }
  | .error fault screen => .error fault { loop with toScreen := screen }

omit [GraphicsDevice δ] in
/-- An operation of the device, in the loop. -/
def onDevice {α : Type} (operation : DeviceM δ α) : LoopM δ α :=
  onScreen (Screen.onDevice operation)

omit [GraphicsDevice δ] in
/-- An operation that may breach a contract but changes nothing. -/
def check {α : Type} (value : Except Breach α) : LoopM δ α :=
  match value with
  | .ok value => pure value
  | .error cause => throw (.breach cause)

omit [GraphicsDevice δ] in
/-- A loop before anything was created. -/
def unstarted (config : RenderConfig) (camera : Camera) (layout : Layout) (overlay : Overlay)
    (device : δ) : FrameLoop δ where
  device := device
  life := .unbuilt config.scene config.maxRecreateAttempts
  guardTimeout := config.guardTimeout
  acquireTimeout := config.acquireTimeout
  layout := layout
  overlay := overlay
  camera := camera

/-- Upload the indices of the scene, build the surface for the window and create the frame slots:
one per image or, while there is no surface, one more than the frames in flight. -/
def start (framesInFlight : Nat) : LoopM δ Unit := do
  let scene := (← get).life.scene
  onDevice (GraphicsDevice.uploadIndices (← check (Mesh.generate scene.style (← get).layout)))
  let extent ← onDevice GraphicsDevice.windowExtent
  onScreen (Screen.openSurface extent)
  onScreen (Screen.openSlots ((← get).life.imageCount?.getD (framesInFlight + 1)))
  modify fun loop => { loop with windowExtent := extent }
  onScreen (Screen.report (.rendererReady extent (← get).slots.length scene))

/-- A started loop. A loop that cannot start releases what it has created. -/
def create (config : RenderConfig) (camera : Camera) (layout : Layout) (overlay : Overlay)
    (device : δ) : EStateM.Result Fault (FrameLoop δ) Unit :=
  match start config.framesInFlight (unstarted config camera layout overlay device) with
  | .ok () loop => .ok () loop
  | .error fault loop =>
    match onScreen Screen.releaseResources loop with
    | .ok () loop | .error _ loop => .error fault loop

/-- Let go of a loop: its resources are released, if there are any. -/
def release (loop : FrameLoop δ) : FrameLoop δ :=
  match onScreen Screen.releaseResources loop with
  | .ok () loop | .error _ loop => loop

omit [GraphicsDevice δ] in
/-- Note the window's size, and schedule a rebuild of the surface before the next frame. -/
def resize (extent : Extent) : LoopM δ Unit := do
  modify fun loop => { loop with windowExtent := extent }
  onScreen (Screen.requestRecreate extent)

omit [GraphicsDevice δ] in
/-- Go on to the next frame and the next slot. -/
def advance : LoopM δ Unit :=
  modify fun loop =>
    { loop with frame := loop.frame + 1, slot := (loop.slot + 1) % loop.slots.length }

omit [GraphicsDevice δ] in
/-- The guard of a slot. -/
def guardOf (slot : Nat) : LoopM δ FenceId := do
  match (← get).slots[slot]? with
  | some frameSlot => return frameSlot.inFlight
  | none => throw (.breach .outOfRange)

omit [GraphicsDevice δ] in
/-- The live resources; without them a frame has no image. -/
def liveResources : LoopM δ SurfaceResources := do
  match (← get).life.resources with
  | some resources => return resources
  | none => throw (.violation .noAcquiredImage)

/-- Render the overlay, upload the history and the uniforms and record the commands of an image. -/
def compose (moment : Moment) (frame image : Nat) : LoopM δ Unit := do
  let scene := (← get).life.scene
  let resources ← liveResources
  let overlay := (← get).overlay
  if overlay.commandsPerFrame ≠ 0 then
    onScreen (Screen.modifyDevice (GraphicsDevice.renderOverlay frame))
  let history := moment.board.history
  onScreen (Screen.modifyDevice (GraphicsDevice.uploadVertices history.runs.1 history.runs.2))
  let uniforms ← check ((← get).camera.uniforms moment.time resources.extent history.layout
    history.rowCount scene.style)
  onScreen (Screen.modifyDevice (GraphicsDevice.writeUniforms image uniforms))
  onScreen (Screen.onSwapchain resources fun swapchain => do
    return ((), ← GraphicsDevice.recordFrame swapchain image (overlay.commands frame)))

/-- Draw, submit and present an acquired image. A presentation that was not perfect schedules a
rebuild at the window's size. -/
def draw (moment : Moment) (frame slot image : Nat) : LoopM δ TurnOutcome := do
  compose moment frame image
  let guard ← guardOf slot
  onScreen (Screen.onSwapchain (← liveResources) fun swapchain => do
    return ((), ← GraphicsDevice.submit swapchain image guard))
  let outcome ← onDevice (GraphicsDevice.present image)
  advance
  if outcome ≠ .presented then
    onScreen (Screen.report (.presentationDegraded outcome))
    onScreen (Screen.requestRecreate (← get).windowExtent)
  return .presented frame slot

/-- Rebuild an out-of-date surface at the window's size, which spends the frame. -/
def rebuildOutOfDate (frame slot : Nat) : LoopM δ TurnOutcome := do
  let extent := (← get).windowExtent
  onScreen (Screen.report (.outOfDateAt frame extent))
  let _ ← onScreen (Screen.recreate extent (some slot))
  advance
  return .recreated frame slot

/-- Run a scheduled rebuild; there may be fewer slots afterwards. -/
def rebuildPending : LoopM δ Unit := do
  if (← get).life.pending.isSome then
    let _ ← onScreen Screen.recreatePending
    modify fun loop => { loop with slot := loop.slot % loop.slots.length }

/-- One turn: wait for the slot, acquire, compose, submit, present and advance. -/
def turn (moment : Moment) : LoopM δ TurnOutcome := do
  rebuildPending
  if !(← get).life.isValid then
    return .skipped
  let slot := (← get).slot
  let frame := (← get).frame
  let guard ← guardOf slot
  let guardTimeout := (← get).guardTimeout
  if !(← onDevice (GraphicsDevice.waitFence guard guardTimeout)) then
    throw (.violation (.guardTimeout slot guardTimeout))
  onScreen (Screen.modifyDevice (GraphicsDevice.resetFence guard))
  let acquireTimeout := (← get).acquireTimeout
  match ← onScreen (Screen.acquire acquireTimeout) with
  | .ready image => draw moment frame slot image
  | .outOfDate => rebuildOutOfDate frame slot
  | .notReady =>
    onScreen (Screen.replaceGuard slot)
    return .skipped
  | .timeout => throw (.violation (.acquireTimeout acquireTimeout))

/-- Switch to another scene; the scene that is already drawn changes nothing. -/
def selectScene (scene : Scene) : LoopM δ Unit := do
  let previous := (← get).life.scene
  if scene ≠ previous then
    if scene.style ≠ previous.style then
      onDevice GraphicsDevice.waitIdle
      onDevice (GraphicsDevice.uploadIndices (← check (Mesh.generate scene.style (← get).layout)))
    onScreen (Screen.rebuildScene scene)
    onScreen (Screen.report (.sceneSelected scene))

/-- Wait for the guards of slots, counted from `index` on. -/
def awaitGuards (index : Nat) : List FrameSlot → LoopM δ Unit
  | [] => pure ()
  | frameSlot :: rest => do
    let guardTimeout := (← get).guardTimeout
    if !(← onDevice (GraphicsDevice.waitFence frameSlot.inFlight guardTimeout)) then
      onScreen (Screen.report (.slotInFlight index))
    awaitGuards (index + 1) rest

/-- Wait for every slot's guard, then tear the surface down. -/
def shutdown : LoopM δ Unit := do
  awaitGuards 0 (← get).slots
  onScreen Screen.teardown

end FrameLoop

end Waterfall

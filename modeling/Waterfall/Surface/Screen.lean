import Waterfall.Surface.Resources

/-! # The screen

The screen is the device together with what is drawn to: the surface's resources, which are built,
torn down and rebuilt, and the frame slots, whose guards tell when the device is done with a frame.
-/

namespace Waterfall

/-- The synchronisation of one frame in flight. -/
structure FrameSlot where
  /-- The fence that is signaled when the slot's last submission is done. -/
  inFlight : FenceId
deriving DecidableEq, Repr, Inhabited

/-- Whether frames may be acquired. -/
inductive SurfaceState
  | valid
  /-- The resources are gone; a usable surface size is awaited. -/
  | recreating
deriving DecidableEq, Repr, Inhabited

/-- The surface's resources and the state of their rebuilding. -/
structure SurfaceLifecycle where
  resources : Option SurfaceResources := none
  state : SurfaceState := .recreating
  /-- The size of a scheduled rebuild. -/
  pending : Option Extent := none
  /-- The size of the last build that succeeded. -/
  lastGood : Option Extent := none
  /-- The scene that builds are made for. -/
  scene : Scene
  maxAttempts : Nat
  /-- The rebuilds that succeeded. -/
  recreations : Nat := 0
deriving DecidableEq, Repr, Inhabited

namespace SurfaceLifecycle

/-- A surface that was not built yet; at least one attempt is made at every rebuild. -/
def unbuilt (scene : Scene) (maxAttempts : Nat) : SurfaceLifecycle :=
  { scene, maxAttempts := max maxAttempts 1 }

/-- Whether frames may be acquired. -/
def isValid (life : SurfaceLifecycle) : Bool := life.state == .valid

/-- The size of the live surface. -/
def extent? (life : SurfaceLifecycle) : Option Extent := life.resources.map (·.extent)

/-- The number of images of the live surface. -/
def imageCount? (life : SurfaceLifecycle) : Option Nat := life.resources.map (·.imageCount)

end SurfaceLifecycle

/-- A device, the surface, the frame slots and the notices so far. -/
structure Screen (δ : Type) where
  device : δ
  life : SurfaceLifecycle
  slots : List FrameSlot := []
  notices : List Notice := []

/-- An operation on a screen; a failure keeps the changes made before it. -/
abbrev ScreenM (δ : Type) := EStateM Fault (Screen δ)

namespace Screen

variable {δ : Type} [GraphicsDevice δ]

omit [GraphicsDevice δ] in
/-- An operation of the device, on the screen. -/
def onDevice {α : Type} (operation : DeviceM δ α) : ScreenM δ α := fun screen =>
  match operation screen.device with
  | .ok value device => .ok value { screen with device }
  | .error fault device => .error fault { screen with device }

omit [GraphicsDevice δ] in
/-- Change the device. -/
def modifyDevice (change : δ → δ) : ScreenM δ Unit :=
  modify fun screen => { screen with device := change screen.device }

omit [GraphicsDevice δ] in
/-- Change the surface. -/
def modifyLife (change : SurfaceLifecycle → SurfaceLifecycle) : ScreenM δ Unit :=
  modify fun screen => { screen with life := change screen.life }

omit [GraphicsDevice δ] in
/-- Report a notice. -/
def report (notice : Notice) : ScreenM δ Unit :=
  modify fun screen => { screen with notices := screen.notices ++ [notice] }

/-- Create a frame slot, its guard signaled. -/
def createSlot : DeviceM δ FrameSlot := do
  GraphicsDevice.createSemaphore
  GraphicsDevice.createSemaphore
  return ⟨← GraphicsDevice.createFence true⟩

/-- Create a number of frame slots. -/
def createSlots : Nat → DeviceM δ (List FrameSlot)
  | 0 => return []
  | count + 1 => do
    let slot ← createSlot
    return slot :: (← createSlots count)

/-- Replace all frame slots by `count` new ones, but at least one. -/
def openSlots (count : Nat) : ScreenM δ Unit := do
  let slots ← onDevice (createSlots (max count 1))
  modify fun screen => { screen with slots }

/-- Give a slot a new, signaled guard: its old one was reset, and nothing will signal it. -/
def replaceGuard (index : Nat) : ScreenM δ Unit := do
  let fence ← onDevice (GraphicsDevice.createFence true)
  let screen ← get
  if index < screen.slots.length then
    set { screen with slots := screen.slots.set index ⟨fence⟩ }
  else throw (.breach .outOfRange)

/-- Build the surface for the first time; a window without a size defers that. -/
def openSurface (extent : Extent) : ScreenM δ Unit := do
  if extent.isEmpty then
    report .creationDeferred
  else
    let resources ← onDevice (SurfaceResources.build extent (← get).life.scene)
    modifyLife fun life =>
      { life with resources := some resources, state := .valid, lastGood := some extent }

omit [GraphicsDevice δ] in
/-- Schedule a rebuild before the next frame; a later request replaces an earlier one. -/
def requestRecreate (extent : Extent) : ScreenM δ Unit :=
  modifyLife fun life => { life with pending := some extent }

/-- Release the resources, if there are any. -/
def releaseResources : ScreenM δ Unit := do
  if (← get).life.resources.isSome then
    modifyLife fun life => { life with resources := none }
    modifyDevice SurfaceResources.release

/-- Wait until the device is idle and tear the surface down. -/
def teardown : ScreenM δ Unit := do
  onDevice GraphicsDevice.waitIdle
  modifyLife fun life => { life with pending := none, state := .recreating }
  releaseResources

/-- The outcome of one attempt to build the surface. -/
def tryBuild (extent : Extent) : ScreenM δ (Except Failure SurfaceResources) := fun screen =>
  match onDevice (SurfaceResources.build extent screen.life.scene) screen with
  | .ok resources screen => .ok (.ok resources) screen
  | .error (.failure cause) screen => .ok (.error cause) screen
  | .error (.breach cause) screen => .error (.breach cause) screen

/-- What follows a failed attempt: up to `retries` more attempts, all at the last good size. -/
def buildAgain (attempt : Nat) (size : Extent) (cause : Failure) :
    Nat → ScreenM δ (Extent × SurfaceResources)
  | 0 => throw (.failure (.recreateExhausted attempt cause.text))
  | retries + 1 => do
    let next := (← get).life.lastGood.getD size
    report (.rebuildFailed attempt cause.text next)
    match ← tryBuild next with
    | .ok resources => return (next, resources)
    | .error cause => buildAgain (attempt + 1) next cause retries

/-- Build the surface at `size`, with up to `attempts` attempts. The result is the size that worked
and the resources. -/
def buildWithin (attempts : Nat) (size : Extent) : ScreenM δ (Extent × SurfaceResources) := do
  match ← tryBuild size with
  | .ok resources => return (size, resources)
  | .error cause => buildAgain 1 size cause (attempts - 1)

/-- Fit the frame slots to a surface of `imageCount` images. With as many slots as before, only the
`affected` slot, whose guard was reset without a submission, gets a new guard. -/
def fitSlots (imageCount : Nat) (affected : Option Nat) : ScreenM δ Unit := do
  let slotCount := (← get).slots.length
  if imageCount ≠ slotCount then
    report (.imageCountChanged slotCount imageCount)
    openSlots imageCount
  else if let some index := affected then
    replaceGuard index

/-- Tear the surface down and build it again at `extent`; without a size it stays torn down. -/
def recreate (extent : Extent) (affected : Option Nat) : ScreenM δ SurfaceState := do
  teardown
  if extent.isEmpty then
    report .waitingForResize
    if let some index := affected then
      replaceGuard index
  else
    let (size, resources) ← buildWithin (← get).life.maxAttempts extent
    modifyLife fun life =>
      { life with
        resources := some resources
        state := .valid
        lastGood := some size
        recreations := life.recreations + 1 }
    fitSlots resources.imageCount affected
    report (.rebuilt size resources.imageCount)
  return (← get).life.state

/-- Run a scheduled rebuild, if there is one. -/
def recreatePending : ScreenM δ SurfaceState := do
  match (← get).life.pending with
  | some extent =>
    modifyLife fun life => { life with pending := none }
    recreate extent none
  | none => return (← get).life.state

/-- Replace the pipeline and record the scene again. Without resources the scene is only noted, and
the next build is made for it. -/
def rebuildScene (scene : Scene) : ScreenM δ Unit := do
  modifyLife fun life => { life with scene }
  if (← get).life.resources.isSome then
    onDevice GraphicsDevice.waitIdle
    onDevice (GraphicsDevice.create (.pipeline scene))
    modifyDevice (GraphicsDevice.discard .pipeline)
    modifyLife fun life =>
      { life with resources := life.resources.map fun resources => { resources with scene } }
    onDevice (GraphicsDevice.recordScene scene)

omit [GraphicsDevice δ] in
/-- Use the images of the live surface, and keep what the device makes of them. -/
def onSwapchain {α : Type} (resources : SurfaceResources)
    (operation : Swapchain → DeviceM δ (α × Swapchain)) : ScreenM δ α := do
  let (value, swapchain) ← onDevice (operation resources.swapchain)
  modifyLife fun life => { life with resources := some { resources with swapchain } }
  return value

/-- Ask the surface for its next image. -/
def acquire (timeout : Duration) : ScreenM δ Acquired := do
  match (← get).life.state, (← get).life.resources with
  | .valid, some resources =>
    onSwapchain resources fun swapchain => GraphicsDevice.acquire swapchain timeout
  | _, _ => return .notReady

end Screen

end Waterfall

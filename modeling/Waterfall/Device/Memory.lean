import Waterfall.Device.Basic
import Waterfall.Word

/-! # A device in memory

A device without hardware, for rehearsals of the frame loop. Every submission completes at once,
unless submissions are held. The device records all its calls; its journal is the part of them that
tells about resources and waits, in words. Which acquisitions and presentations meet a changed
surface, and how many surfaces cannot be created, is set beforehand.
-/

namespace Waterfall

/-- A device in memory. -/
structure MemoryDevice where
  /-- The size of the window. -/
  window : Extent
  /-- The images of a new surface. -/
  imageCount : Nat := 3
  /-- The acquisitions, counted from zero, that find the surface out of date. -/
  outOfDateOn : List Nat := []
  /-- The acquisitions, counted from zero, that find no image in time. -/
  timeoutOn : List Nat := []
  /-- The presentations, counted from zero, that find the surface suboptimal. -/
  suboptimalOn : List Nat := []
  /-- The surface creations still to be refused. -/
  failingBuilds : Nat := 0
  /-- Whether submissions are left uncompleted. -/
  holdSubmissions : Bool := false
  /-- The uploaded indices. -/
  indices : List Nat := []
  /-- The number of uploaded points. -/
  uploadedPoints : Nat := 0
  /-- The uniforms written last. -/
  uniforms : Option Uniforms := none
  /-- The frames whose overlay commands were recorded. -/
  overlaySeen : List Nat := []
  /-- Acquisitions so far. -/
  acquires : Nat := 0
  /-- Presentations so far. -/
  presents : Nat := 0
  /-- Whether each fence is signaled, in the order of creation. -/
  fences : List Bool := []
  /-- Every call so far. -/
  calls : List CallRecord := []

namespace MemoryDevice

/-- Add a call to the record. -/
def note (call : DeviceCall) (device : MemoryDevice) : MemoryDevice :=
  { device with calls := device.calls ++ [⟨call, false⟩] }

/-- Add a refused call to the record. -/
def noteRefused (call : DeviceCall) (device : MemoryDevice) : MemoryDevice :=
  { device with calls := device.calls ++ [⟨call, true⟩] }

/-- Whether a fence is signaled. -/
def isSignaled (device : MemoryDevice) (fence : FenceId) : Bool :=
  device.fences.getD (fence - 1) false

/-- Set whether a fence is signaled. -/
def setSignaled (fence : FenceId) (signaled : Bool) (device : MemoryDevice) : MemoryDevice :=
  { device with fences := device.fences.set (fence - 1) signaled }

/-- The bytes a command buffer takes. -/
def commandBytes : Nat := 1

/-- Create a resource. A surface is refused as long as builds are to fail, and there may not be more
command buffers than can be stored; what was begun of them is released again. -/
def create (creation : Creation) : DeviceM MemoryDevice Unit := do
  match creation with
  | .surface _ =>
    let device ← get
    if 0 < device.failingBuilds then
      set { device.noteRefused (.create creation) with failingBuilds := device.failingBuilds - 1 }
      throw (.failure (.resource "surface creation refused"))
    else set (device.note (.create creation))
  | .commands count =>
    modify (note (.create creation))
    if let .error cause := Word.reserve count commandBytes then
      modify (note (.discard .commands))
      throw (.breach cause)
  | _ => modify (note (.create creation))

/-- Create a fence, numbered by the order of creation. -/
def createFence (signaled : Bool) : DeviceM MemoryDevice FenceId := do
  modify (note (.createFence signaled))
  modify fun device => { device with fences := device.fences ++ [signaled] }
  return (← get).fences.length

/-- Look whether a fence is signaled; time never passes here. -/
def waitFence (fence : FenceId) (timeout : Duration) : DeviceM MemoryDevice Bool := do
  modify (note (.waitFence fence timeout))
  return (← get).isSignaled fence

/-- Make a fence unsignaled. -/
def resetFence (fence : FenceId) (device : MemoryDevice) : MemoryDevice :=
  setSignaled fence false (note (.resetFence fence) device)

/-- The next image of the surface, unless this acquisition is set to fail. -/
def acquire (swapchain : Swapchain) (timeout : Duration) :
    DeviceM MemoryDevice (Acquired × Swapchain) := do
  modify (note (.acquire timeout))
  let turn := (← get).acquires
  modify fun device => { device with acquires := device.acquires + 1 }
  if (← get).outOfDateOn.contains turn then
    return (.outOfDate, swapchain)
  if (← get).timeoutOn.contains turn then
    return (.timeout, swapchain)
  if swapchain.imageCount = 0 then
    throw (.breach .zeroDivisor)
  let next := (swapchain.nextImage + 1) % swapchain.imageCount
  return (.ready swapchain.nextImage, { swapchain with nextImage := next })

/-- Record a frame for one of the surface's images. -/
def recordFrame (swapchain : Swapchain) (image : Nat) (overlay : List OverlayCommand) :
    DeviceM MemoryDevice Swapchain := do
  modify (note (.recordFrame image overlay))
  modify fun device =>
    { device with overlaySeen := device.overlaySeen ++ overlay.map (·.frame) }
  if swapchain.imageCount ≤ image then
    throw (.breach .outOfRange)
  return swapchain.markRecorded image

/-- Submit a recorded frame and, unless submissions are held, complete it. -/
def submit (swapchain : Swapchain) (image : Nat) (fence : FenceId) :
    DeviceM MemoryDevice Swapchain := do
  let recorded := swapchain.isRecorded image
  modify fun device => note (.submit image fence recorded device.holdSubmissions) device
  if swapchain.imageCount ≤ image then
    throw (.breach .outOfRange)
  if !recorded then
    throw (.violation .noAcquiredImage)
  modify fun device => if device.holdSubmissions then device else setSignaled fence true device
  return swapchain.clearRecorded image

/-- Present an image. -/
def present (image : Nat) : DeviceM MemoryDevice Presented := do
  modify (note (.present image))
  let turn := (← get).presents
  modify fun device => { device with presents := device.presents + 1 }
  return if (← get).suboptimalOn.contains turn then .suboptimal else .presented

/-- The words of a call in the journal; calls that change neither a resource nor wait have none. -/
def journalText? (record : CallRecord) : Option String :=
  match record.call with
  | .create creation => some (creationText record.refused creation)
  | .discard kind => some s!"drop {kind.name}"
  | .recordScene scene => some s!"record scene {scene.style.name}"
  | .uploadIndices count => some s!"upload indices {count}"
  | .waitFence fence _ => some s!"wait fence {fence}"
  | .waitIdle => some "wait idle"
  | .windowExtent => some "query extent"
  | _ => none
where
  /-- The words of a creation that succeeded or was refused. -/
  creationText (refused : Bool) : Creation → String
    | .surface extent =>
      if refused then s!"fail surface {extent.text}" else s!"create surface {extent.text}"
    | .images => "create images"
    | .depth => "create depth"
    | .target => "create target"
    | .pipeline scene => "create pipeline " ++ scene.text "/"
    | .framebuffers => "create framebuffers"
    | .commands count => s!"create commands {count}"

/-- The journal of the device. -/
def journal (device : MemoryDevice) : List String := device.calls.filterMap journalText?

/-- The first two words of a journal entry. -/
def kindOf (entry : String) : String := " ".intercalate ((entry.splitOn " ").take 2)

instance : GraphicsDevice MemoryDevice where
  imageCount device := device.imageCount
  isSignaled := isSignaled
  create := create
  discard kind := note (.discard kind)
  recordScene scene := modify (note (.recordScene scene))
  uploadIndices indices := modify fun device =>
    { note (.uploadIndices indices.length) device with indices }
  createSemaphore := modify (note .createSemaphore)
  createFence := createFence
  waitFence := waitFence
  resetFence := resetFence
  waitIdle := modify (note .waitIdle)
  windowExtent := do
    modify (note .windowExtent)
    return (← get).window
  acquire := acquire
  uploadVertices oldest newest device :=
    { note (.uploadVertices oldest.length newest.length) device with
      uploadedPoints := oldest.length + newest.length }
  writeUniforms image uniforms device :=
    { note (.writeUniforms image) device with uniforms := some uniforms }
  recordFrame := recordFrame
  submit := submit
  present := present
  renderOverlay frame device := note (.overlayRender frame) (note .overlayStart device)

end MemoryDevice

end Waterfall

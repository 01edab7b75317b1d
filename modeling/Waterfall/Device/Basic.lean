import Waterfall.Camera
import Waterfall.Device.Call
import Waterfall.Notice
import Waterfall.Spectrum.Scale

/-! # Graphics devices

What the frame loop needs of a graphics device. A device is a state; its calls may change the state,
and may fail with the changes kept. An out-of-date surface is an outcome of a call, never a failure.
-/

namespace Waterfall

/-- The images of a live surface. -/
structure Swapchain where
  imageCount : Nat
  /-- The image that the surface hands out next. -/
  nextImage : Nat := 0
  /-- The images with a recorded frame that was not submitted yet. -/
  recorded : List Nat := []
deriving DecidableEq, Repr, Inhabited

namespace Swapchain

/-- The images with one more recorded frame. -/
def markRecorded (swapchain : Swapchain) (image : Nat) : Swapchain :=
  { swapchain with recorded := image :: swapchain.recorded.filter (· != image) }

/-- The images without the recorded frame of one image. -/
def clearRecorded (swapchain : Swapchain) (image : Nat) : Swapchain :=
  { swapchain with recorded := swapchain.recorded.filter (· != image) }

/-- Whether an image has a recorded frame. -/
def isRecorded (swapchain : Swapchain) (image : Nat) : Bool := swapchain.recorded.contains image

end Swapchain

/-- The outcome of asking a surface for its next image. -/
inductive Acquired
  /-- The image may be drawn to. -/
  | ready (image : Nat)
  /-- The surface no longer matches the window. -/
  | outOfDate
  /-- There is no surface to ask. -/
  | notReady
  /-- No image became available in time. -/
  | timeout
deriving DecidableEq, Repr, Inhabited

/-- The outcome in words. -/
def Acquired.text : Acquired → String
  | ready image => s!"Ready({image})"
  | outOfDate => "OutOfDate"
  | notReady => "NotReady"
  | timeout => "Timeout"

/-- An operation of a device in state `δ`. -/
abbrev DeviceM (δ : Type) := EStateM Fault δ

/-- The calls of a graphics device in state `δ`. -/
class GraphicsDevice (δ : Type) where
  /-- The images that a surface created now would have. -/
  imageCount : δ → Nat
  /-- Whether a fence is signaled. -/
  isSignaled : δ → FenceId → Bool
  /-- Create one of the surface's resources. -/
  create : Creation → DeviceM δ Unit
  /-- Release one of the surface's resources. -/
  discard : ResourceKind → δ → δ
  /-- Record the commands that draw the scene. -/
  recordScene : Scene → DeviceM δ Unit
  /-- Replace the indices that the scene draws. -/
  uploadIndices : List Nat → DeviceM δ Unit
  /-- Create a semaphore. -/
  createSemaphore : DeviceM δ Unit
  /-- Create a fence. -/
  createFence : Bool → DeviceM δ FenceId
  /-- Wait for a fence; false if it was still unsignaled at the end of the time. -/
  waitFence : FenceId → Duration → DeviceM δ Bool
  /-- Make a fence unsignaled. -/
  resetFence : FenceId → δ → δ
  /-- Wait for all submitted work. -/
  waitIdle : DeviceM δ Unit
  /-- The size of the window. -/
  windowExtent : DeviceM δ Extent
  /-- Ask a surface for its next image. -/
  acquire : Swapchain → Duration → DeviceM δ (Acquired × Swapchain)
  /-- Upload the two runs of points that make up the vertices. -/
  uploadVertices : List Point → List Point → δ → δ
  /-- Upload the uniforms of an image. -/
  writeUniforms : Nat → Uniforms → δ → δ
  /-- Record the commands of one frame. -/
  recordFrame : Swapchain → Nat → List OverlayCommand → DeviceM δ Swapchain
  /-- Submit a recorded frame; its completion signals the fence. -/
  submit : Swapchain → Nat → FenceId → DeviceM δ Swapchain
  /-- Queue an image for presentation. -/
  present : Nat → DeviceM δ Presented
  /-- Tell an overlay that a frame starts and that it is to be rendered. -/
  renderOverlay : Nat → δ → δ

end Waterfall

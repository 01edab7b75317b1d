import Waterfall.Device.Basic

/-! # The resources of a surface

Seven resources follow the surface. They are created in a fixed order, and if one cannot be created
the earlier ones are released again, the last one first. A finished set is released in the same
order, so a set that was never finished leaves nothing behind either.
-/

namespace Waterfall

variable {δ : Type} [GraphicsDevice δ]

/-- A finished set of surface resources. -/
structure SurfaceResources where
  extent : Extent
  /-- The scene that the pipeline was created for. -/
  scene : Scene
  swapchain : Swapchain
deriving DecidableEq, Repr, Inhabited

namespace SurfaceResources

/-- The number of images of the surface. -/
def imageCount (resources : SurfaceResources) : Nat := resources.swapchain.imageCount

/-- The creations that build a set, in order. -/
def plan (extent : Extent) (scene : Scene) (imageCount : Nat) : List Creation :=
  [.surface extent, .images, .depth, .target, .pipeline scene, .framebuffers, .commands imageCount]

/-- An operation that releases a resource if it does not succeed. -/
def undoing {α : Type} (kind : ResourceKind) (operation : DeviceM δ α) : DeviceM δ α :=
  fun device =>
    match operation device with
    | .ok value device => .ok value device
    | .error fault device => .error fault (GraphicsDevice.discard kind device)

/-- Create resources one after the other and then finish; a failure undoes what was created. -/
def createAll : List Creation → DeviceM δ Unit → DeviceM δ Unit
  | [], finish => finish
  | creation :: rest, finish => do
    GraphicsDevice.create creation
    undoing creation.kind (createAll rest finish)

/-- Build the resources for a surface size and record the scene. -/
def build (extent : Extent) (scene : Scene) : DeviceM δ SurfaceResources := do
  let imageCount := GraphicsDevice.imageCount (← get)
  createAll (plan extent scene imageCount) (GraphicsDevice.recordScene scene)
  return { extent, scene, swapchain := { imageCount } }

/-- Release a finished set. -/
def release (device : δ) : δ :=
  ResourceKind.teardownOrder.foldl (fun device kind => GraphicsDevice.discard kind device) device

end SurfaceResources

end Waterfall

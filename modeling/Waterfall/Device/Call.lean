import Waterfall.Device.Extent
import Waterfall.Duration
import Waterfall.Scene

/-! # Calls to the graphics device

The vocabulary between the frame loop and the graphics device: the resources that follow the
surface, the calls that create, use and release them, and the record of a call that was made.
-/

namespace Waterfall

/-- The resources whose shape follows the surface. -/
inductive ResourceKind
  | surface | images | depth | target | pipeline | framebuffers | commands
deriving DecidableEq, Repr, Inhabited

namespace ResourceKind

/-- The name of a resource. -/
def name : ResourceKind → String
  | surface => "surface"
  | images => "images"
  | depth => "depth"
  | target => "target"
  | pipeline => "pipeline"
  | framebuffers => "framebuffers"
  | commands => "commands"

/-- The order of release: what was created last goes first. -/
def teardownOrder : List ResourceKind :=
  [commands, framebuffers, pipeline, target, depth, images, surface]

end ResourceKind

/-- A request for one of the surface's resources. -/
inductive Creation
  | surface (extent : Extent)
  | images
  | depth
  | target
  | pipeline (scene : Scene)
  | framebuffers
  | commands (count : Nat)
deriving DecidableEq, Repr, Inhabited

/-- The resource that a request creates. -/
def Creation.kind : Creation → ResourceKind
  | surface _ => .surface
  | images => .images
  | depth => .depth
  | target => .target
  | pipeline _ => .pipeline
  | framebuffers => .framebuffers
  | commands _ => .commands

/-- The number of a fence; the first fence of a device is number one. -/
abbrev FenceId := Nat

/-- Extra commands that an overlay adds to one frame. -/
structure OverlayCommand where
  frame : Nat
  index : Nat
deriving DecidableEq, Repr, Inhabited

/-- One call to the device. -/
inductive DeviceCall
  | create (creation : Creation)
  | discard (kind : ResourceKind)
  | recordScene (scene : Scene)
  | uploadIndices (count : Nat)
  | createSemaphore
  | createFence (signaled : Bool)
  | waitFence (fence : FenceId) (timeout : Duration)
  | resetFence (fence : FenceId)
  | waitIdle
  | windowExtent
  | acquire (timeout : Duration)
  | uploadVertices (oldest newest : Nat)
  | writeUniforms (image : Nat)
  | recordFrame (image : Nat) (overlay : List OverlayCommand)
  /-- Submit an image; `recorded` says whether it had a recorded frame, `held` whether the
  submission was left uncompleted. -/
  | submit (image : Nat) (fence : FenceId) (recorded held : Bool)
  | present (image : Nat)
  | overlayStart
  | overlayRender (frame : Nat)
deriving DecidableEq, Repr, Inhabited

/-- A call that was made, and whether the device refused it. -/
structure CallRecord where
  call : DeviceCall
  refused : Bool := false
deriving DecidableEq, Repr, Inhabited

end Waterfall

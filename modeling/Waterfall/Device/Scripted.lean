import Waterfall.Device.Basic

/-! # A scripted device

A device without hardware that follows a script: which call of which name is refused, how each
acquisition and presentation turns out, and whether submissions complete. Calls of one name are
counted from zero, refused ones included. The device keeps a log of its calls in words.
-/

namespace Waterfall

/-- A scripted outcome of one acquisition. -/
inductive AcquireFate
  | outOfDate | timeout | notReady
  /-- The device breaks down inside the call. -/
  | breakdown
deriving DecidableEq, Repr, Inhabited

/-- The outcome of a name in a script. -/
def AcquireFate.parse? : String → Option AcquireFate
  | "out_of_date" => some outOfDate
  | "timeout" => some timeout
  | "not_ready" => some notReady
  | "panic" => some breakdown
  | _ => none

/-- The presentation outcome of a name in a script. -/
def Presented.parse? : String → Option Presented
  | "suboptimal" => some suboptimal
  | "out_of_date" => some outOfDate
  | _ => none

/-- A device that follows a script. -/
structure ScriptedDevice where
  /-- The size of the window. -/
  window : Extent := ⟨800, 600⟩
  /-- The images of a new surface. -/
  imageCount : Nat := 3
  /-- Whether submissions are left uncompleted. -/
  hold : Bool := false
  /-- The calls that are refused, by name and number. -/
  refusals : List (String × Nat) := []
  /-- The outcomes of acquisitions, by number. -/
  acquireScript : List (Nat × AcquireFate) := []
  /-- The outcomes of presentations, by number. -/
  presentScript : List (Nat × Presented) := []
  /-- Whether each fence is signaled, in the order of creation. -/
  fences : List Bool := []
  /-- The fences of submissions that were left uncompleted. -/
  heldFences : List FenceId := []
  /-- The uploaded indices. -/
  indices : List Nat := []
  /-- The uploaded points. -/
  vertices : List Point := []
  /-- The uniforms written last. -/
  uniforms : Option Uniforms := none
  /-- Every call so far. -/
  calls : List CallRecord := []

namespace ScriptedDevice

/-- The name of a call in the script and in the log. -/
def callName : DeviceCall → String
  | .create creation => creationName creation
  | .discard _ => "drop"
  | .recordScene _ => "record_scene"
  | .uploadIndices _ => "upload_indices"
  | .createSemaphore => "create_semaphore"
  | .createFence _ => "create_fence"
  | .waitFence _ _ => "wait_fence"
  | .resetFence _ => "reset_fence"
  | .waitIdle => "wait_idle"
  | .windowExtent => "surface_extent"
  | .acquire _ => "acquire"
  | .uploadVertices _ _ => "upload_vertices"
  | .writeUniforms _ => "write_uniforms"
  | .recordFrame _ _ => "record_frame"
  | .submit _ _ _ _ => "submit"
  | .present _ => "present"
  | .overlayStart | .overlayRender _ => "overlay"
where
  /-- The name of a creation. -/
  creationName : Creation → String
    | .surface _ => "create_surface"
    | .images => "create_images"
    | .depth => "create_depth_buffer"
    | .target => "create_render_target"
    | .pipeline _ => "create_pipeline"
    | .framebuffers => "create_framebuffers"
    | .commands _ => "create_command_buffers"

/-- The words that follow a call's name in the log. -/
def callDetails : DeviceCall → String
  | .create (.surface extent) => s!" {extent.text}"
  | .create (.pipeline scene) => " " ++ scene.text "/"
  | .create (.commands count) => s!" {count}"
  | .discard kind => s!" {kind.name}"
  | .recordScene scene => " " ++ scene.text "/"
  | .uploadIndices count => s!" {count}"
  | .createFence signaled => if signaled then " signaled" else ""
  | .waitFence fence timeout => s!" {fence} {timeout.milliseconds}ms"
  | .resetFence fence => s!" {fence}"
  | .acquire timeout => s!" {timeout.milliseconds}ms"
  | .uploadVertices oldest newest => s!" {oldest}+{newest}"
  | .writeUniforms image => s!" {image}"
  | .recordFrame image overlay =>
    let names := overlay.map fun command => s!"{command.frame}.{command.index}"
    s!" {image} [" ++ ",".intercalate names ++ "]"
  | .submit image fence _ _ => s!" {image} fence {fence}"
  | .present image => s!" {image}"
  | .overlayStart => " start"
  | .overlayRender frame => s!" render {frame}"
  | _ => ""

/-- A call in the words of the log. -/
def logText (record : CallRecord) : String :=
  let words := callName record.call ++ callDetails record.call
  if record.refused then "fail " ++ words
  else
    match record.call with
    | .submit _ _ false _ => words ++ " unrecorded"
    | _ => words

/-- The log from a number of calls on. -/
def logFrom (device : ScriptedDevice) (start : Nat) : List String :=
  (device.calls.drop start).map logText

/-- The number of calls of a name so far. -/
def countOf (device : ScriptedDevice) (name : String) : Nat :=
  device.calls.countP fun record => callName record.call == name

/-- The number of acquisitions so far. -/
def acquisitions (device : ScriptedDevice) : Nat := device.countOf "acquire"

/-- Add a call that cannot fail to the record. -/
def note (call : DeviceCall) (device : ScriptedDevice) : ScriptedDevice :=
  { device with calls := device.calls ++ [⟨call, false⟩] }

/-- Make a call, which is recorded first and then refused if the script says so. -/
def perform (call : DeviceCall) : DeviceM ScriptedDevice Unit := do
  let device : ScriptedDevice ← get
  let name := callName call
  let refused := device.refusals.contains (name, device.countOf name)
  set { device with calls := device.calls ++ [CallRecord.mk call refused] }
  if refused then
    throw (.failure (.resource s!"{name} refused"))

/-- Whether a fence is signaled. -/
def isSignaled (device : ScriptedDevice) (fence : FenceId) : Bool :=
  device.fences.getD (fence - 1) false

/-- Set whether a fence is signaled. -/
def setSignaled (fence : FenceId) (signaled : Bool) (device : ScriptedDevice) : ScriptedDevice :=
  { device with fences := device.fences.set (fence - 1) signaled }

/-- Complete every submission that was held. -/
def complete (device : ScriptedDevice) : ScriptedDevice :=
  { device.heldFences.foldl (fun device fence => setSignaled fence true device) device with
    heldFences := [] }

/-- Add numbered entries to a script, their numbers counted from `start`. Of two entries with one
number, the one added last counts. -/
def extendScript {α : Type} (script : List (Nat × α)) (start : Nat) (entries : List (Nat × α)) :
    List (Nat × α) :=
  entries.foldl (fun script (number, entry) => (start + number, entry) :: script) script

/-- Add entries to the script, their numbers counted from the calls made so far. -/
def extend (device : ScriptedDevice) (refusals : List (String × Nat))
    (acquires : List (Nat × AcquireFate)) (presents : List (Nat × Presented)) : ScriptedDevice :=
  { device with
    refusals := device.refusals ++
      refusals.map fun (name, number) => (name, device.countOf name + number)
    acquireScript := extendScript device.acquireScript (device.countOf "acquire") acquires
    presentScript := extendScript device.presentScript (device.countOf "present") presents }

/-- Create a fence, numbered by the order of successful creation. -/
def createFence (signaled : Bool) : DeviceM ScriptedDevice FenceId := do
  perform (.createFence signaled)
  modify fun device => { device with fences := device.fences ++ [signaled] }
  return (← get).fences.length

/-- The next image of the surface, unless the script says otherwise; a surface without images hands
out image zero. -/
def acquire (swapchain : Swapchain) (timeout : Duration) :
    DeviceM ScriptedDevice (Acquired × Swapchain) := do
  let number := (← get).acquisitions
  perform (.acquire timeout)
  match (← get).acquireScript.lookup number with
  | some .outOfDate => return (.outOfDate, swapchain)
  | some .timeout => return (.timeout, swapchain)
  | some .notReady => return (.notReady, swapchain)
  | some .breakdown => throw (.breach .device)
  | none =>
    let next := (swapchain.nextImage + 1) % max swapchain.imageCount 1
    return (.ready swapchain.nextImage, { swapchain with nextImage := next })

/-- Submit an image and complete the submission, unless submissions are held. -/
def submit (swapchain : Swapchain) (image : Nat) (fence : FenceId) :
    DeviceM ScriptedDevice Swapchain := do
  perform (.submit image fence (swapchain.isRecorded image) (← get).hold)
  modify fun device =>
    if device.hold then { device with heldFences := device.heldFences ++ [fence] }
    else setSignaled fence true device
  return swapchain.clearRecorded image

/-- Present an image with the scripted outcome. -/
def present (image : Nat) : DeviceM ScriptedDevice Presented := do
  let number := (← get).countOf "present"
  perform (.present image)
  return ((← get).presentScript.lookup number).getD .presented

instance : GraphicsDevice ScriptedDevice where
  imageCount device := device.imageCount
  isSignaled := isSignaled
  create creation := perform (.create creation)
  discard kind := note (.discard kind)
  recordScene scene := perform (.recordScene scene)
  uploadIndices indices := do
    perform (.uploadIndices indices.length)
    modify fun device => { device with indices }
  createSemaphore := perform .createSemaphore
  createFence := createFence
  waitFence fence timeout := do
    perform (.waitFence fence timeout)
    return (← get).isSignaled fence
  resetFence fence device := setSignaled fence false (note (.resetFence fence) device)
  waitIdle := perform .waitIdle
  windowExtent := do
    modify (note .windowExtent)
    return (← get).window
  acquire := acquire
  uploadVertices oldest newest device :=
    { note (.uploadVertices oldest.length newest.length) device with
      vertices := oldest ++ newest }
  writeUniforms image uniforms device :=
    { note (.writeUniforms image) device with uniforms := some uniforms }
  recordFrame swapchain image overlay := do
    perform (.recordFrame image overlay)
    return swapchain.markRecorded image
  submit := submit
  present := present
  renderOverlay frame device := note (.overlayRender frame) (note .overlayStart device)

end ScriptedDevice

end Waterfall

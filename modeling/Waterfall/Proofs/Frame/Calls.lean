import Waterfall.Proofs.Surface.Rebuild
import Waterfall.Frame.Loop

/-! # The other calls of the frame loop

How a loop is created, how a scene is selected and how a loop is shut down, on a device in memory.
-/

namespace Waterfall

namespace MemoryDevice

/-- The device after indices were uploaded, the work before them awaited. -/
def reindexed (indices : List Nat) (device : MemoryDevice) : MemoryDevice :=
  { device with
    calls := device.calls ++ [.accepted .waitIdle, .accepted (.uploadIndices indices.length)]
    indices }

/-- The device after the first indices were uploaded and the window's size was asked for. -/
def queried (indices : List Nat) (device : MemoryDevice) : MemoryDevice :=
  { device with
    calls := device.calls ++ [.accepted (.uploadIndices indices.length), .accepted .windowExtent]
    indices }

/-- The slots with an unsignaled guard, counted from `index` on. -/
def unsignaled (index : Nat) (slots : List FrameSlot) (device : MemoryDevice) : List Nat :=
  (slots.zipIdx index).filterMap fun (slot, number) =>
    if device.isSignaled slot.inFlight then none else some number

theorem unsignaled_cons (index : Nat) (slot : FrameSlot) (rest : List FrameSlot)
    (device : MemoryDevice) :
    device.unsignaled index (slot :: rest) =
      if device.isSignaled slot.inFlight then device.unsignaled (index + 1) rest
      else index :: device.unsignaled (index + 1) rest := by
  cases signaled : device.isSignaled slot.inFlight <;>
    simp [unsignaled, List.zipIdx_cons, signaled]

/-- Calls that create no fence leave the signals as they are. -/
@[simp] theorem unsignaled_prepare (index : Nat) (slots : List FrameSlot) (added : List CallRecord)
    (refused : Nat) (device : MemoryDevice) :
    (device.prepare added 0 refused).unsignaled index slots = device.unsignaled index slots := by
  have signals (fence : FenceId) :
      (device.prepare added 0 refused).isSignaled fence = device.isSignaled fence := by
    rw [isSignaled, fences_prepare, List.replicate_zero, List.append_nil]
    rfl
  simp only [unsignaled, signals]

theorem mem_unsignaled_iff {index : Nat} {slots : List FrameSlot} {slot : FrameSlot}
    {device : MemoryDevice} (found : slots[index]? = some slot) :
    index ∈ device.unsignaled 0 slots ↔ device.isSignaled slot.inFlight = false := by
  simp only [unsignaled, List.mem_filterMap, Prod.exists]
  constructor
  · rintro ⟨other, number, member, reported⟩
    split at reported
    · cases reported
    · rename_i unsignaled
      obtain rfl := Option.some.inj reported
      have same := (List.mk_mem_zipIdx_iff_getElem?.mp member).symm.trans found
      obtain rfl := Option.some.inj same
      exact Bool.eq_false_iff.mpr unsignaled
  · intro unsignaled
    refine ⟨slot, index, List.mk_mem_zipIdx_iff_getElem?.mpr found, ?_⟩
    rw [unsignaled]
    rfl

end MemoryDevice

namespace Screen

variable {screen : Screen MemoryDevice}

/-- The calls that replace the pipeline of a live surface. -/
def pipelineCalls (scene : Scene) : List CallRecord :=
  [.accepted .waitIdle, .accepted (.create (.pipeline scene)), .accepted (.discard .pipeline),
    .accepted (.recordScene scene)]

theorem idle_pipelineCalls (scene : Scene) : CallRecord.Idle (pipelineCalls scene) :=
  .cons rfl (.cons rfl (.cons rfl (.cons rfl CallRecord.idle_nil)))

/-- The screen after another scene was selected. -/
def rescened (scene : Scene) (screen : Screen MemoryDevice) : Screen MemoryDevice :=
  { screen with
    device :=
      screen.device.prepare (if screen.life.resources.isSome then pipelineCalls scene else []) 0 0
    life :=
      { screen.life with
        scene
        resources := screen.life.resources.map fun resources => { resources with scene } } }

/-- Replacing the pipeline of a live surface. -/
theorem rebuildScene_of_some {resources : SurfaceResources} (scene : Scene)
    (live : screen.life.resources = some resources) :
    rebuildScene scene screen = .ok () (screen.rescened scene) := by
  unfold rebuildScene
  refine (modify_bind _ _ _).trans ((get_bind _ _).trans ?_)
  refine (then_apply (by rw [live]; rfl) _).trans ?_
  refine (bind_of_ok (onDevice_waitIdle _)).trans ?_
  have accepts (device : MemoryDevice) : device.Accepts (.pipeline scene) := trivial
  refine (bind_of_ok (onDevice_of_ok (MemoryDevice.create_of_accepts (accepts _)))).trans ?_
  refine (modify_bind _ _ _).trans ((modify_bind _ _ _).trans ?_)
  refine (onDevice_of_ok (MemoryDevice.recordScene_eq _ scene)).trans ?_
  simp [rescened, live, pipelineCalls, MemoryDevice.discard_eq_prepare]

theorem rebuildScene_eq (scene : Scene) (screen : Screen MemoryDevice) :
    rebuildScene scene screen = .ok () (screen.rescened scene) := by
  cases live : screen.life.resources with
  | some resources => exact rebuildScene_of_some scene live
  | none =>
    unfold rebuildScene
    refine (modify_bind _ _ _).trans ((get_bind _ _).trans ?_)
    refine (else_apply (by rw [live]; decide) _).trans ?_
    simp [rescened, live]

/-- Building the surface for the first time; a window without a size defers that. -/
theorem openSurface_of_empty {extent : Extent} (empty : extent.isEmpty = true) :
    openSurface extent screen =
      .ok () { screen with notices := screen.notices ++ [.creationDeferred] } := by
  unfold openSurface
  exact then_apply empty _

/-- A surface that is built at once is built on a device that refuses nothing. -/
theorem openSurface_of_sized {extent : Extent} {after : Screen MemoryDevice}
    (sized : extent.isEmpty = false) (ran : openSurface extent screen = .ok () after) :
    screen.device.failingBuilds = 0 ∧ screen.device.imageCount < Word.storageLimit ∧
      after =
        { screen with
          device := screen.device.prepare
            (SurfaceResources.buildCalls extent screen.life.scene screen.device.imageCount) 0 0
          life :=
            { screen.life with
              resources := some
                (SurfaceResources.built extent screen.life.scene screen.device.imageCount)
              state := .valid
              lastGood := some extent } } := by
  unfold openSurface at ran
  rw [else_apply (Bool.eq_false_iff.mp sized), get_bind] at ran
  obtain ready | failing := Nat.eq_zero_or_pos screen.device.failingBuilds
  · obtain fits | unfit := Nat.lt_or_ge screen.device.imageCount Word.storageLimit
    · rw [bind_of_ok (onDevice_of_ok (SurfaceResources.build_of_ready ready fits))] at ran
      exact ⟨ready, fits, (EStateM.Result.ok.inj ran).2.symm⟩
    · rw [bind_of_error
        (onDevice_of_error (SurfaceResources.build_of_oversized ready unfit))] at ran
      cases ran
  · rw [bind_of_error (onDevice_of_error (SurfaceResources.build_of_failing failing))] at ran
    cases ran

end Screen

namespace FrameLoop

variable {loop : FrameLoop MemoryDevice}

/-- How selecting a scene ends. -/
inductive SelectEnd (scene : Scene) (loop : FrameLoop MemoryDevice) :
    EStateM.Result Fault (FrameLoop MemoryDevice) Unit → Prop
  | same (same : scene = loop.life.scene) : SelectEnd scene loop (.ok () loop)
  /-- The indices of the style cannot be numbered. -/
  | unnumbered {cause : Breach} (restyled : scene.style ≠ loop.life.scene.style)
      (unnumbered : Mesh.generate scene.style loop.layout = .error cause) :
      SelectEnd scene loop
        (.error (.breach cause)
          { loop with device := loop.device.prepare [.accepted .waitIdle] 0 0 })
  | restyled {indices : List Nat} (notices : List Notice)
      (restyled : scene.style ≠ loop.life.scene.style)
      (generated : Mesh.generate scene.style loop.layout = .ok indices) :
      SelectEnd scene loop
        (.ok ()
          { loop with
            toScreen :=
              { Screen.rescened scene
                  { loop.toScreen with device := loop.device.reindexed indices } with
                notices } })
  | rescened (notices : List Notice) (different : scene ≠ loop.life.scene)
      (kept : scene.style = loop.life.scene.style) :
      SelectEnd scene loop
        (.ok () { loop with toScreen := { loop.toScreen.rescened scene with notices } })

/-- The last steps of selecting a scene. -/
theorem rebuildScene_report (scene : Scene) (loop : FrameLoop MemoryDevice) :
    (do
      onScreen (Screen.rebuildScene scene)
      onScreen (Screen.report (.sceneSelected scene)) : LoopM MemoryDevice Unit) loop =
      .ok ()
        { loop with
          toScreen :=
            { loop.toScreen.rescened scene with
              notices := loop.notices ++ [.sceneSelected scene] } } :=
  bind_of_ok (onScreen_of_ok (Screen.rebuildScene_eq scene loop.toScreen))

theorem onDevice_waitIdle (loop : FrameLoop MemoryDevice) :
    onDevice GraphicsDevice.waitIdle loop =
      .ok () { loop with device := loop.device.prepare [.accepted .waitIdle] 0 0 } :=
  onScreen_of_ok (Screen.onDevice_waitIdle loop.toScreen)

theorem uploadIndices_eq (indices : List Nat) (loop : FrameLoop MemoryDevice) :
    onDevice (GraphicsDevice.uploadIndices indices)
        { loop with device := loop.device.prepare [.accepted .waitIdle] 0 0 } =
      .ok () { loop with device := loop.device.reindexed indices } := by
  refine onDevice_of_ok ?_
  change EStateM.Result.ok () _ = _
  simp [MemoryDevice.prepare, MemoryDevice.reindexed, MemoryDevice.note, CallRecord.accepted]

theorem selectScene_end (scene : Scene) (loop : FrameLoop MemoryDevice) :
    SelectEnd scene loop (selectScene scene loop) := by
  unfold selectScene
  rw [get_bind]
  by_cases same : scene = loop.life.scene
  · rw [else_apply (not_not_intro same)]
    exact .same same
  rw [then_apply same]
  by_cases kept : scene.style = loop.life.scene.style
  · rw [else_apply (not_not_intro kept)]
    dsimp only
    rw [rebuildScene_report]
    exact .rescened _ same kept
  · rw [then_apply kept, bind_of_ok (onDevice_waitIdle loop), get_bind]
    cases generated : Mesh.generate scene.style loop.layout with
    | error cause => exact .unnumbered kept generated
    | ok indices =>
      rw [bind_of_ok (check_of_ok indices _), bind_of_ok (uploadIndices_eq indices loop)]
      dsimp only
      rw [rebuildScene_report]
      exact .restyled _ kept generated

/-- Waiting for guards never fails; those that are unsignaled are reported. -/
theorem awaitGuards_eq (index : Nat) (slots : List FrameSlot) (loop : FrameLoop MemoryDevice) :
    awaitGuards index slots loop =
      .ok ()
        { loop with
          device := loop.device.prepare
            (slots.map fun slot => .accepted (.waitFence slot.inFlight loop.guardTimeout)) 0 0
          notices := loop.notices ++ (loop.device.unsignaled index slots).map .slotInFlight } := by
  induction slots generalizing index loop with
  | nil => simp [awaitGuards, MemoryDevice.unsignaled]
  | cons slot rest ih =>
    let call : CallRecord := .accepted (.waitFence slot.inFlight loop.guardTimeout)
    have waited : onDevice (GraphicsDevice.waitFence slot.inFlight loop.guardTimeout) loop =
        .ok (loop.device.isSignaled slot.inFlight)
          { loop with device := loop.device.prepare [call] 0 0 } := by
      rw [← MemoryDevice.note_eq_prepare]
      rfl
    unfold awaitGuards
    rw [get_bind, bind_of_ok waited, MemoryDevice.unsignaled_cons]
    cases signaled : loop.device.isSignaled slot.inFlight with
    | false =>
      rw [then_apply (by rfl), bind_of_ok (report_eq _ _)]
      dsimp only
      rw [ih]
      simp [call]
    | true =>
      rw [else_apply (by decide)]
      dsimp only
      rw [ih]
      simp [call]

/-- Shutting down awaits every guard, reports those that are unsignaled and clears the surface. -/
theorem shutdown_reports (loop : FrameLoop MemoryDevice) :
    shutdown loop =
      .ok ()
        { loop with
          toScreen :=
            Screen.cleared
              { loop.toScreen with
                device := loop.device.prepare
                  (loop.slots.map fun slot =>
                    .accepted (.waitFence slot.inFlight loop.guardTimeout)) 0 0
                notices :=
                  loop.notices ++ (loop.device.unsignaled 0 loop.slots).map .slotInFlight } } := by
  unfold shutdown
  rw [get_bind, bind_of_ok (awaitGuards_eq 0 loop.slots loop)]
  exact onScreen_of_ok (Screen.teardown_eq _)

/-- Shutting down, up to the notices. -/
theorem shutdown_eq (loop : FrameLoop MemoryDevice) :
    ∃ notices, shutdown loop =
      .ok ()
        { loop with
          toScreen :=
            Screen.cleared
              { loop.toScreen with
                device := loop.device.prepare
                  (loop.slots.map fun slot =>
                    .accepted (.waitFence slot.inFlight loop.guardTimeout)) 0 0
                notices } } :=
  ⟨_, shutdown_reports loop⟩

/-- The screen of a new loop once the window's size was asked for. -/
def queriedScreen (config : RenderConfig) (indices : List Nat) (device : MemoryDevice) :
    Screen MemoryDevice where
  device := device.queried indices
  life := .unbuilt config.scene config.maxRecreateAttempts

/-- The screen of a new loop once its surface was built. -/
def builtScreen (config : RenderConfig) (indices : List Nat) (device : MemoryDevice) :
    Screen MemoryDevice where
  device := (device.queried indices).prepare
    (SurfaceResources.buildCalls device.window config.scene device.imageCount) 0 0
  life :=
    { SurfaceLifecycle.unbuilt config.scene config.maxRecreateAttempts with
      resources := some (SurfaceResources.built device.window config.scene device.imageCount)
      state := .valid
      lastGood := some device.window }

/-- The loops that construction leads to. -/
inductive Created (config : RenderConfig) (camera : Camera) (layout : Layout) (overlay : Overlay)
    (device : MemoryDevice) : FrameLoop MemoryDevice → Prop
  /-- The window has no size; there is one slot more than frames in flight. -/
  | deferred {indices : List Nat} (notices : List Notice)
      (generated : Mesh.generate config.scene.style layout = .ok indices)
      (empty : device.window.isEmpty = true) :
      Created config camera layout overlay device
        { unstarted config camera layout overlay device with
          toScreen :=
            { (queriedScreen config indices device).opened (config.framesInFlight + 1) with
              notices }
          windowExtent := device.window }
  /-- The surface is built; there is one slot for each image. -/
  | built {indices : List Nat} (notices : List Notice)
      (generated : Mesh.generate config.scene.style layout = .ok indices)
      (sized : device.window.isEmpty = false) (ready : device.failingBuilds = 0)
      (fits : device.imageCount < Word.storageLimit) :
      Created config camera layout overlay device
        { unstarted config camera layout overlay device with
          toScreen := { (builtScreen config indices device).opened device.imageCount with notices }
          windowExtent := device.window }

theorem uploadIndices_first (indices : List Nat) (device : MemoryDevice) :
    GraphicsDevice.uploadIndices indices device =
      .ok () { device.note (.uploadIndices indices.length) with indices } := rfl

theorem windowExtent_eq (indices : List Nat) (device : MemoryDevice) :
    GraphicsDevice.windowExtent
        { device.note (.uploadIndices indices.length) with indices } =
      .ok device.window (device.queried indices) := by
  change EStateM.Result.ok _ _ = _
  simp [MemoryDevice.queried, MemoryDevice.note, CallRecord.accepted]

theorem created_of_create {config : RenderConfig} {camera : Camera} {layout : Layout}
    {overlay : Overlay} {device : MemoryDevice}
    (created : create config camera layout overlay device = .ok () loop) :
    Created config camera layout overlay device loop := by
  let bare := unstarted config camera layout overlay device
  have started : start config.framesInFlight bare = .ok () loop := by
    unfold create at created
    split at created
    · rename_i ran
      rw [ran, ← created]
    · split at created <;> cases created
  unfold start at started
  rw [get_bind, get_bind] at started
  cases generated : Mesh.generate config.scene.style layout with
  | error cause =>
    have failed : check (Mesh.generate bare.life.scene.style bare.layout) bare =
        .error (.breach cause) bare := congrArg (check · bare) generated
    rw [bind_of_error failed] at started
    cases started
  | ok indices =>
    have numbered : check (Mesh.generate bare.life.scene.style bare.layout) bare =
        .ok indices bare := congrArg (check · bare) generated
    rw [bind_of_ok numbered, bind_of_ok (onDevice_of_ok (uploadIndices_first indices device)),
      bind_of_ok (onDevice_of_ok (windowExtent_eq indices device))] at started
    cases empty : device.window.isEmpty with
    | true =>
      rw [bind_of_ok (onScreen_of_ok (Screen.openSurface_of_empty empty)), get_bind,
        bind_of_ok (onScreen_of_ok (Screen.openSlots_eq _ _)), modify_bind, get_bind] at started
      rw [← (EStateM.Result.ok.inj started).2]
      exact .deferred _ generated empty
    | false =>
      let queried : FrameLoop MemoryDevice := { bare with device := device.queried indices }
      cases opened : Screen.openSurface device.window queried.toScreen with
      | error fault screen =>
        rw [bind_of_error (onScreen_of_error opened)] at started
        cases started
      | ok _ screen =>
        obtain ⟨ready, fits, rfl⟩ := Screen.openSurface_of_sized empty opened
        rw [bind_of_ok (onScreen_of_ok opened), get_bind,
          bind_of_ok (onScreen_of_ok (Screen.openSlots_eq _ _)), modify_bind, get_bind] at started
        rw [← (EStateM.Result.ok.inj started).2]
        exact .built _ generated empty ready fits

end FrameLoop

end Waterfall

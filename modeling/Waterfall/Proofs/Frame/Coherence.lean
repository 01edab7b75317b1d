import Waterfall.Proofs.Frame.Agreement
import Waterfall.Proofs.Mesh.Indices

/-! # What is drawn is what was selected

A selection reaches the device by several ways: the indices are uploaded when the style changes, the
pipeline is replaced while the surface is live, and is otherwise created by the next rebuild. The
record of the calls tells which indices, which pipeline and which recording of the scene belong
together. Between two calls they always do, and they are those of the selection; so a presented
frame draws the selected style, and no index goes beyond the uploaded points.
-/

namespace Waterfall

/-- What a device was told to draw. -/
structure Stage where
  /-- The number of indices that were uploaded last. -/
  indices : Option Nat := none
  /-- The scene that the newest pipeline was created for. -/
  pipeline : Option Scene := none
  /-- The scene that was recorded since the last indices were uploaded and since the last resource
  was created or released. -/
  recorded : Option Scene := none
deriving DecidableEq, Repr

namespace Stage

/-- The stage on which a scene is drawn with its own pipeline. -/
def showing (indices : Nat) (scene : Scene) : Stage := ⟨some indices, some scene, some scene⟩

/-- The stage after a resource was created. -/
def created (stage : Stage) : Creation → Stage
  | .pipeline scene => { stage with pipeline := some scene, recorded := none }
  | _ => { stage with recorded := none }

/-- The stage after one more call. -/
def next (stage : Stage) (record : CallRecord) : Stage :=
  match record.call with
  | .uploadIndices count => { stage with indices := some count, recorded := none }
  | .create creation => if record.refused then stage else stage.created creation
  | .discard _ => { stage with recorded := none }
  | .recordScene scene => { stage with recorded := some scene }
  | _ => stage

/-- The stage after calls to a new device. -/
def after (calls : List CallRecord) : Stage := calls.foldl next {}

end Stage

namespace CallRecord

/-- Whether a call leaves the stage as it is. -/
def sparesStage (record : CallRecord) : Bool :=
  match record.call with
  | .create _ => record.refused
  | .discard _ | .recordScene _ | .uploadIndices _ => false
  | _ => true

end CallRecord

namespace Stage

variable {stage : Stage} {calls added : List CallRecord}

theorem after_append (calls added : List CallRecord) :
    after (calls ++ added) = added.foldl next (after calls) :=
  List.foldl_append

theorem next_of_spares {record : CallRecord} (spares : record.sparesStage = true) :
    stage.next record = stage := by
  obtain ⟨call, refused⟩ := record
  cases call with
  | create creation => exact if_pos spares
  | discard kind => cases spares
  | recordScene scene => cases spares
  | uploadIndices count => cases spares
  | _ => rfl

theorem foldl_of_spares (spares : ∀ record ∈ added, record.sparesStage = true) :
    added.foldl next stage = stage := by
  induction added with
  | nil => rfl
  | cons record rest ih =>
    rw [List.foldl_cons, next_of_spares (spares record List.mem_cons_self)]
    exact ih fun other member => spares other (List.mem_cons_of_mem _ member)

theorem foldl_buildCalls (extent : Extent) (scene : Scene) (imageCount : Nat) :
    (SurfaceResources.buildCalls extent scene imageCount).foldl next stage =
      ⟨stage.indices, some scene, some scene⟩ := rfl

theorem foldl_pipelineCalls (scene : Scene) :
    (Screen.pipelineCalls scene).foldl next stage = ⟨stage.indices, some scene, some scene⟩ := rfl

theorem indices_next {record : CallRecord} (other : ∀ count, record.call ≠ .uploadIndices count) :
    (stage.next record).indices = stage.indices := by
  obtain ⟨call, refused⟩ := record
  cases call with
  | uploadIndices count => exact absurd rfl (other count)
  | create creation => cases refused <;> cases creation <;> rfl
  | _ => rfl

/-- Only an upload changes which indices are drawn. -/
theorem indices_foldl (others : ∀ record ∈ added, ∀ count, record.call ≠ .uploadIndices count) :
    (added.foldl next stage).indices = stage.indices := by
  induction added generalizing stage with
  | nil => rfl
  | cons record rest ih =>
    rw [List.foldl_cons, ih fun other member => others other (List.mem_cons_of_mem _ member)]
    exact indices_next (others record List.mem_cons_self)

theorem indices_clearCalls (life : SurfaceLifecycle) :
    ((Screen.clearCalls life).foldl next stage).indices = stage.indices := by
  refine indices_foldl fun record member count => ?_
  unfold Screen.clearCalls at member
  obtain rfl | member := List.mem_cons.mp member
  · nofun
  · split at member
    · obtain ⟨kind, _, rfl⟩ := List.mem_map.mp member
      nofun
    · cases member

theorem indices_abandonedCalls (extent : Extent) (scene : Scene) (imageCount : Nat) :
    ((SurfaceResources.abandonedCalls extent scene imageCount).foldl next stage).indices =
      stage.indices := by
  refine indices_foldl fun record member count => ?_
  obtain created | released := List.mem_append.mp member
  · obtain ⟨creation, _, rfl⟩ := List.mem_map.mp created
    nofun
  · obtain ⟨creation, _, rfl⟩ := List.mem_map.mp released
    nofun

theorem spares_refusals (sizes : Nat → Extent) (count : Nat) :
    ∀ record ∈ Screen.refusals sizes count, record.sparesStage = true := by
  intro record member
  obtain ⟨attempt, _, rfl⟩ := List.mem_map.mp member
  rfl

theorem spares_slotCalls (count : Nat) :
    ∀ record ∈ MemoryDevice.slotCalls count, record.sparesStage = true := by
  intro record member
  rcases MemoryDevice.mem_slotCalls member with rfl | rfl <;> rfl

theorem spares_overlayCalls (overlay : Overlay) (frame : Nat) :
    ∀ record ∈ MemoryDevice.overlayCalls overlay frame, record.sparesStage = true := by
  unfold MemoryDevice.overlayCalls
  split <;> simp [CallRecord.sparesStage, CallRecord.accepted]

theorem spares_drawCalls {overlay : Overlay} {frame image : Nat} {history : History Point}
    {guard : FenceId} {held : Bool} :
    ∀ record ∈ MemoryDevice.drawCalls overlay frame history image guard held,
      record.sparesStage = true := by
  intro record member
  obtain rendered | member := List.mem_append.mp member
  · exact spares_overlayCalls overlay frame record rendered
  · simp only [List.mem_cons, List.not_mem_nil, or_false] at member
    rcases member with rfl | rfl | rfl | rfl | rfl <;> rfl

end Stage

theorem MemoryDevice.PreparesTo.indices {device after : MemoryDevice}
    (prepares : device.PreparesTo after) : after.indices = device.indices := by
  obtain ⟨added, guards, refused, _, rfl⟩ := prepares
  rfl

theorem History.length_runs {α : Type} (history : History α) :
    history.runs.1.length + history.runs.2.length =
      history.layout.rows * history.layout.rowLength := by
  rw [runs, Nat.add_comm, ← List.length_append, List.take_append_drop, history.length_points]

/-- The uniforms describe a layout whose points can be numbered as it is. -/
theorem Camera.uniforms_eq {camera : Camera} {time : Float32} {extent : Extent} {layout : Layout}
    {rowCount : Nat} {style : VisualStyle} {uniforms : Uniforms}
    (rows_pos : 0 < layout.rows) (rowLength_pos : 0 < layout.rowLength)
    (fits : layout.rows * layout.rowLength < Word.indexLimit) (rowCount_le : rowCount ≤ layout.rows)
    (counted : camera.uniforms time extent layout rowCount style = .ok uniforms) :
    uniforms.style = style.shaderCode ∧
      uniforms.vertexCount = layout.rows * layout.rowLength ∧
      uniforms.rowLength = layout.rowLength ∧ uniforms.rowCount = rowCount := by
  have limits : Word.indexLimit < Word.countLimit := by decide
  have points : layout.points = .ok (layout.rows * layout.rowLength) :=
    Word.mul_of_lt (Nat.lt_trans fits limits)
  have rows_le : layout.rows ≤ layout.rows * layout.rowLength :=
    Nat.le_mul_of_pos_right _ rowLength_pos
  have rowCount_fits : rowCount < Word.indexLimit := by omega
  have rowLength_le : layout.rowLength ≤ layout.rows * layout.rowLength :=
    Nat.le_mul_of_pos_left _ rows_pos
  have rowLength_fits : layout.rowLength < Word.indexLimit := by omega
  rw [Camera.uniforms, points, ok_bind] at counted
  cases counted
  exact ⟨rfl, Word.truncate_of_lt fits, Word.truncate_of_lt rowLength_fits,
    Word.truncate_of_lt rowCount_fits⟩

/-- What a frame was drawn with: the shader knows the style and the shape of the history, all points
were uploaded, and each index is that of a point. -/
structure MemoryDevice.Shows (style : VisualStyle) (history : History Point)
    (device : MemoryDevice) : Prop where
  uniforms : ∃ uniforms, device.uniforms = some uniforms ∧ uniforms.style = style.shaderCode ∧
    uniforms.vertexCount = history.layout.rows * history.layout.rowLength ∧
    uniforms.rowLength = history.layout.rowLength ∧ uniforms.rowCount = history.rowCount
  uploadedPoints : device.uploadedPoints = history.layout.rows * history.layout.rowLength
  index_lt : ∀ index ∈ device.indices, index < device.uploadedPoints

namespace Screen

/-- The device has its last indices, and a live surface draws the selected scene with them. -/
structure UpToDate (screen : Screen MemoryDevice) : Prop where
  uploaded : (Stage.after screen.device.calls).indices = some screen.device.indices.length
  shown : ∀ resources ∈ screen.life.resources, resources.scene = screen.life.scene ∧
    Stage.after screen.device.calls =
      .showing screen.device.indices.length screen.life.scene

variable {screen after : Screen MemoryDevice} {extent : Extent} {affected : Option Nat}
  {added : List CallRecord}

/-- Calls that leave the stage as it is may use the surface. -/
theorem UpToDate.spared (upToDate : screen.UpToDate)
    (calls : after.device.calls = screen.device.calls ++ added)
    (indices : after.device.indices = screen.device.indices)
    (scene : after.life.scene = screen.life.scene)
    (resources : after.life.resources.map (·.scene) = screen.life.resources.map (·.scene))
    (spares : ∀ record ∈ added, record.sparesStage = true) : after.UpToDate := by
  have stage : Stage.after after.device.calls = Stage.after screen.device.calls := by
    rw [calls, Stage.after_append, Stage.foldl_of_spares spares]
  refine ⟨?_, fun used live => ?_⟩
  · rw [stage, indices]
    exact upToDate.uploaded
  · have mapped : screen.life.resources.map (·.scene) = some used.scene := by
      rw [← resources, live, Option.map_some]
    obtain ⟨before, present, same⟩ := Option.map_eq_some_iff.mp mapped
    rw [stage, indices, scene, ← same]
    exact upToDate.shown before present

/-- A screen without a surface need only have its indices. -/
theorem UpToDate.of_none (upToDate : screen.UpToDate)
    (calls : after.device.calls = screen.device.calls ++ added)
    (indices : after.device.indices = screen.device.indices)
    (kept : ∀ stage : Stage, (added.foldl Stage.next stage).indices = stage.indices)
    (awaited : after.life.resources = none) : after.UpToDate := by
  refine ⟨?_, ?_⟩
  · rw [calls, Stage.after_append, kept, indices]
    exact upToDate.uploaded
  · rw [awaited]
    nofun

/-- A surface that was just built, or given another pipeline, draws the scene it was made for. -/
theorem UpToDate.of_stage {stage : Stage}
    (uploaded : stage.indices = some after.device.indices.length)
    (calls : Stage.after after.device.calls =
      ⟨stage.indices, some after.life.scene, some after.life.scene⟩)
    (resources : ∀ resources ∈ after.life.resources, resources.scene = after.life.scene) :
    after.UpToDate := by
  rw [uploaded] at calls
  refine ⟨?_, fun used live => ⟨resources used live, calls⟩⟩
  rw [calls]

theorem UpToDate.cleared (upToDate : screen.UpToDate) : screen.cleared.UpToDate :=
  upToDate.of_none rfl rfl (fun _ => Stage.indices_clearCalls screen.life) rfl

theorem UpToDate.patched (upToDate : screen.UpToDate) (affected : Option Nat) :
    (screen.patched affected).UpToDate := by
  cases affected with
  | none => exact upToDate
  | some index =>
    exact upToDate.spared rfl rfl rfl rfl
      (by simp [CallRecord.sparesStage, CallRecord.accepted])

theorem UpToDate.opened (upToDate : screen.UpToDate) (count : Nat) :
    (screen.opened count).UpToDate :=
  upToDate.spared rfl rfl rfl rfl (Stage.spares_slotCalls _)

theorem UpToDate.fitted (upToDate : screen.UpToDate) (imageCount : Nat) (affected : Option Nat) :
    (screen.fitted imageCount affected).UpToDate := by
  rw [Screen.fitted]
  split
  · exact upToDate.opened imageCount
  · exact upToDate.patched affected

theorem UpToDate.installed (upToDate : screen.UpToDate) (sizes : Nat → Extent) :
    (screen.installed sizes).UpToDate := by
  refine .of_stage upToDate.uploaded ?_ ?_
  · change Stage.after (screen.device.calls ++ _) = _
    rw [Stage.after_append, List.foldl_append,
      Stage.foldl_of_spares (Stage.spares_refusals _ _), Stage.foldl_buildCalls]
    rfl
  · rintro _ ⟨⟩
    rfl

theorem UpToDate.of_notices {notices : List Notice} (upToDate : screen.UpToDate) :
    UpToDate { screen with notices } :=
  ⟨upToDate.uploaded, upToDate.shown⟩

theorem UpToDate.rebuild {result : EStateM.Result Fault (Screen MemoryDevice) SurfaceState}
    (upToDate : screen.UpToDate) (ended : RebuildEnd extent affected screen result) :
    (leftBy result).UpToDate := by
  cases ended with
  | deferred notices empty => exact (upToDate.cleared.patched affected).of_notices
  | rebuilt notices sized enough fits =>
    exact ((upToDate.cleared.installed _).fitted screen.device.imageCount affected).of_notices
  | exhausted notices sized few =>
    refine upToDate.cleared.of_none rfl rfl (fun stage => ?_) rfl
    rw [Stage.foldl_of_spares (Stage.spares_refusals _ _)]
  | oversized notices sized enough unfit =>
    refine upToDate.cleared.of_none rfl rfl (fun stage => ?_) rfl
    rw [List.foldl_append, Stage.foldl_of_spares (Stage.spares_refusals _ _),
      Stage.indices_abandonedCalls]

/-- A live surface gets the pipeline of a selected scene at once. -/
theorem upToDate_rescened
    (uploaded : (Stage.after screen.device.calls).indices = some screen.device.indices.length)
    (scene : Scene) : (screen.rescened scene).UpToDate := by
  cases live : screen.life.resources with
  | none =>
    refine ⟨?_, ?_⟩
    · simpa [Screen.rescened, live] using uploaded
    · simp [Screen.rescened, live]
  | some resources =>
    refine .of_stage uploaded ?_ ?_
    · simp only [Screen.rescened, live, Option.isSome_some, if_true, MemoryDevice.prepare,
        Stage.after_append, Stage.foldl_pipelineCalls]
    · simp [Screen.rescened, live]

/-- A rebuild is made for the scene that is selected. -/
theorem RebuildEnd.scene {result : EStateM.Result Fault (Screen MemoryDevice) SurfaceState}
    (ended : RebuildEnd extent affected screen result) :
    (leftBy result).life.scene = screen.life.scene := by
  cases ended with
  | deferred notices empty => simp [leftBy, Screen.cleared]
  | rebuilt notices sized enough fits => simp [leftBy, Screen.installed, Screen.cleared]
  | exhausted notices sized few => rfl
  | oversized notices sized enough unfit => rfl

end Screen

namespace FrameLoop

variable {loop : FrameLoop MemoryDevice} {resources : SurfaceResources} {guard : FenceId}
  {moment : Moment} {layout : Layout}

/-- The device holds the indices of the selected style, and a live surface draws the selection. -/
structure Coherent (layout : Layout) (loop : FrameLoop MemoryDevice) : Prop where
  layout_eq : loop.layout = layout
  indexed : Mesh.generate loop.life.scene.style layout = .ok loop.device.indices
  upToDate : loop.toScreen.UpToDate

/-- Whatever changes neither the selection nor the indices need only keep the screen up to date. -/
theorem Coherent.of_same {after : FrameLoop MemoryDevice} (coherent : loop.Coherent layout)
    (layout_eq : after.layout = loop.layout) (scene : after.life.scene = loop.life.scene)
    (indices : after.device.indices = loop.device.indices)
    (upToDate : after.toScreen.UpToDate) : after.Coherent layout := by
  refine ⟨layout_eq.trans coherent.layout_eq, ?_, upToDate⟩
  rw [scene, indices]
  exact coherent.indexed

theorem PendingEnd.scene {result : EStateM.Result Fault (FrameLoop MemoryDevice) Unit}
    (ended : PendingEnd loop result) : (leftBy result).life.scene = loop.life.scene := by
  cases ended with
  | idle unscheduled => rfl
  | rebuilt scheduled ended => exact ended.scene
  | failed scheduled ended => exact ended.scene

theorem Coherent.rebuildPending {result : EStateM.Result Fault (FrameLoop MemoryDevice) Unit}
    (coherent : loop.Coherent layout) (ended : PendingEnd loop result) :
    (leftBy result).Coherent layout := by
  have indices := ended.preparesTo.indices
  have scene := ended.scene
  cases ended with
  | idle unscheduled => exact coherent
  | rebuilt scheduled ended =>
    exact coherent.of_same rfl scene indices (coherent.upToDate.rebuild ended)
  | failed scheduled ended =>
    exact coherent.of_same rfl scene indices (coherent.upToDate.rebuild ended)

theorem Coherent.asked {result : EStateM.Result Fault (FrameLoop MemoryDevice) TurnOutcome}
    (coherent : loop.Coherent layout) (serves : loop.Serves resources guard)
    (ended : AskedEnd moment loop resources guard result) : (leftBy result).Coherent layout := by
  have scenes : (some resources.handedOut).map (·.scene) =
      loop.life.resources.map (·.scene) := by
    rw [serves.live]
    rfl
  have asked : (loop.asked guard).toScreen.UpToDate := by
    refine coherent.upToDate.spared rfl rfl rfl rfl ?_
    simp [CallRecord.sparesStage, CallRecord.accepted]
  have supplied : (loop.supplied guard resources).toScreen.UpToDate := by
    refine coherent.upToDate.spared rfl rfl rfl scenes ?_
    simp [CallRecord.sparesStage, CallRecord.accepted]
  cases ended with
  | recreated outdated ended =>
    exact coherent.of_same rfl ended.scene ended.preparesTo.indices (asked.rebuild ended)
  | recreateFailed outdated ended =>
    exact coherent.of_same rfl ended.scene ended.preparesTo.indices (asked.rebuild ended)
  | acquireTimeout current late => exact coherent.of_same rfl rfl rfl asked
  | uncounted current prompt uncounted =>
    refine coherent.of_same rfl rfl rfl (supplied.spared rfl rfl rfl rfl ?_)
    intro record member
    obtain rendered | member := List.mem_append.mp member
    · exact Stage.spares_overlayCalls _ _ record rendered
    · rw [List.mem_singleton.mp member]
      rfl
  | presented notices current prompt counted =>
    exact coherent.of_same rfl rfl rfl
      (supplied.spared rfl rfl rfl rfl Stage.spares_drawCalls)

theorem Coherent.turn (coherent : loop.Coherent layout) (agrees : loop.Agrees) (moment : Moment) :
    (leftBy (loop.turn moment)).Coherent layout := by
  refine agrees.turn_keeps (motive := Coherent layout) ?_ ?_ ?_
  · intro result ended
    exact coherent.rebuildPending ended
  · intro ready guard coherent
    exact coherent.of_same rfl rfl rfl (coherent.upToDate.spared rfl rfl rfl rfl
      (by simp [CallRecord.sparesStage]))
  · intro ready resources guard result _ serves ended coherent
    exact coherent.asked serves ended

/-- A selected style brings its indices with it. -/
theorem Coherent.select (coherent : loop.Coherent layout) (scene : Scene) :
    (leftBy (selectScene scene loop)).Coherent layout := by
  have ended := selectScene_end scene loop
  generalize selectScene scene loop = result at ended
  cases ended with
  | same same => exact coherent
  | unnumbered restyled unnumbered =>
    exact coherent.of_same rfl rfl rfl (coherent.upToDate.spared rfl rfl rfl rfl
      (by simp [CallRecord.sparesStage, CallRecord.accepted]))
  | @restyled indices notices restyled generated =>
    rw [coherent.layout_eq] at generated
    refine ⟨coherent.layout_eq, generated, (Screen.upToDate_rescened ?_ scene).of_notices⟩
    change (Stage.after (loop.device.calls ++ _)).indices = _
    rw [Stage.after_append]
    rfl
  | rescened notices different kept =>
    refine ⟨coherent.layout_eq, ?_, (Screen.upToDate_rescened ?_ scene).of_notices⟩
    · change Mesh.generate scene.style layout = .ok loop.device.indices
      rw [kept]
      exact coherent.indexed
    · exact coherent.upToDate.uploaded

theorem Coherent.shutdown (coherent : loop.Coherent layout) :
    (leftBy loop.shutdown).Coherent layout := by
  obtain ⟨notices, ended⟩ := shutdown_eq loop
  rw [ended]
  have awaited : Screen.UpToDate
      { loop.toScreen with
        device := loop.device.prepare
          (loop.slots.map fun slot => .accepted (.waitFence slot.inFlight loop.guardTimeout)) 0 0
        notices } := by
    refine coherent.upToDate.spared rfl rfl rfl rfl ?_
    intro record member
    obtain ⟨slot, _, rfl⟩ := List.mem_map.mp member
    rfl
  exact coherent.of_same rfl rfl rfl awaited.cleared

/-- Every call keeps the selection and what is drawn together, also one that fails. -/
theorem Coherent.run (coherent : loop.Coherent layout) (agrees : loop.Agrees) (call : LoopCall) :
    (call.run loop).2.Coherent layout := by
  refine LoopCall.run_keeps (motive := Coherent layout) (coherent.turn agrees) ?_ coherent.select
    coherent.shutdown ?_
  · intro extent
    exact ⟨coherent.layout_eq, coherent.indexed, coherent.upToDate.uploaded,
      coherent.upToDate.shown⟩
  · intro settings _
    exact ⟨coherent.layout_eq, coherent.indexed, coherent.upToDate.uploaded,
      coherent.upToDate.shown⟩

theorem coherent_of_created {config : RenderConfig} {camera : Camera} {overlay : Overlay}
    {settings : DeviceSettings}
    (created : Created config camera layout overlay settings.device loop) :
    loop.Coherent layout := by
  cases created with
  | @deferred indices notices generated empty =>
    have queried : (queriedScreen config indices settings.device).UpToDate := ⟨rfl, nofun⟩
    exact ⟨rfl, generated, (queried.opened _).of_notices⟩
  | @built indices notices generated sized ready fits =>
    have built : (builtScreen config indices settings.device).UpToDate := by
      refine ⟨rfl, ?_⟩
      rintro _ ⟨⟩
      exact ⟨rfl, rfl⟩
    exact ⟨rfl, generated, (built.opened _).of_notices⟩

/-- The device holds no index that goes beyond the points of the layout. -/
theorem Coherent.index_lt (coherent : loop.Coherent layout) (rows_pos : 0 < layout.rows)
    (rowLength_pos : 0 < layout.rowLength)
    (fits : layout.rows * layout.rowLength < Word.indexLimit) :
    ∀ index ∈ loop.device.indices, index < layout.rows * layout.rowLength := by
  have generated := coherent.indexed
  rw [Mesh.generate_eq _ rows_pos rowLength_pos fits] at generated
  rw [← Except.ok.inj generated]
  exact Mesh.index_lt loop.life.scene.style rows_pos

/-- A presented frame draws the style that was selected for its turn. -/
theorem Coherent.shows {next : FrameLoop MemoryDevice} {frame slot : Nat}
    (coherent : loop.Coherent layout) (agrees : loop.Agrees) (rows_pos : 0 < layout.rows)
    (rowLength_pos : 0 < layout.rowLength)
    (fits : layout.rows * layout.rowLength < Word.indexLimit)
    (same : moment.board.layout = layout)
    (ran : loop.turn moment = .ok (.presented frame slot) next) :
    next.life.scene = loop.life.scene ∧
      next.device.Shows loop.life.scene.style moment.board.history := by
  have next_coherent : next.Coherent layout := by
    have turned := coherent.turn agrees moment
    rwa [ran] at turned
  have index_lt := next_coherent.index_lt rows_pos rowLength_pos fits
  cases agrees.turn_end ran with
  | asked rebuilt serves signaled ended =>
    have scene := (PendingEnd.of_run rebuilt).scene
    cases ended with
    | presented notices current prompt counted =>
      subst same
      have points := moment.board.history.length_runs
      obtain ⟨style, described⟩ := Camera.uniforms_eq rows_pos rowLength_pos fits
        moment.board.history.filled_le counted
      refine ⟨scene, ⟨_, rfl, ?_, described⟩, points, ?_⟩
      · rw [style]
        exact congrArg (fun scene : Scene => scene.style.shaderCode) scene
      · intro index member
        exact Nat.lt_of_lt_of_eq (index_lt index member) points.symm

/-- Whatever was called before, the device holds the indices of the selected style, and a live
surface has a pipeline for the selected scene, which was recorded after the pipeline was installed
and after those indices were uploaded. A frame presented next draws the selected style: its uniforms
name it and give the shape of the history, and no index goes beyond the uploaded points. -/
theorem coherent_of_replay {config : RenderConfig} {camera : Camera} {overlay : Overlay}
    {settings : DeviceSettings} {start after : FrameLoop MemoryDevice} {calls : List LoopCall}
    {reports : List LoopReport} (rows_pos : 0 < layout.rows) (rowLength_pos : 0 < layout.rowLength)
    (fits : layout.rows * layout.rowLength < Word.indexLimit)
    (created : create config camera layout overlay settings.device = .ok () start)
    (replayed : replay calls start = (reports, after)) :
    Mesh.generate after.life.scene.style layout = .ok after.device.indices ∧
      (∀ resources ∈ after.life.resources, resources.scene = after.life.scene ∧
        Stage.after after.device.calls =
          .showing after.device.indices.length after.life.scene) ∧
      ∀ moment frame slot next, moment.board.layout = layout →
        after.turn moment = .ok (.presented frame slot) next →
        next.life.scene = after.life.scene ∧
          next.device.Shows after.life.scene.style moment.board.history := by
  have created := created_of_create created
  let motive (_ : List LoopReport) (loop : FrameLoop MemoryDevice) : Prop :=
    loop.Agrees ∧ loop.Coherent layout
  have step : ∀ call ∈ calls, ∀ reports loop, motive reports loop →
      motive (reports ++ [(call.run loop).1]) (call.run loop).2 := by
    rintro call _ reports loop ⟨agrees, coherent⟩
    exact ⟨agrees.run call, coherent.run agrees call⟩
  have started : motive [] start :=
    ⟨agrees_of_created settings.imageCount_pos created, coherent_of_created created⟩
  obtain ⟨agrees, coherent⟩ : motive reports after := replay_keeps step started replayed
  refine ⟨coherent.indexed, coherent.upToDate.shown, ?_⟩
  intro moment frame slot next same ran
  exact coherent.shows agrees rows_pos rowLength_pos fits same ran

/-- A style is selected while there is no surface, and another one once it was drawn. -/
theorem coherent_of_late_surface :
    let moment : Moment := ⟨0, History.create .origin ⟨2, 3⟩ (by decide), .identity⟩
    ∃ start reports after next,
      create {} {} ⟨2, 3⟩ {} (DeviceSettings.device { window := ⟨0, 0⟩ }) = .ok () start ∧
        replay
            [.select { style := .circle }, .resize ⟨4, 3⟩, .turn moment,
              .select { style := .lines }]
            start = (reports, after) ∧
        after.turn moment = .ok (.presented 1 1) next ∧
        Mesh.generate .lines ⟨2, 3⟩ = .ok after.device.indices ∧
        Stage.after after.device.calls =
          .showing after.device.indices.length { style := .lines } ∧
        next.device.Shows .lines moment.board.history := by
  intro moment
  let first := leftBy (create {} {} ⟨2, 3⟩ {} (DeviceSettings.device { window := ⟨0, 0⟩ }))
  let calls : List LoopCall :=
    [.select { style := .circle }, .resize ⟨4, 3⟩, .turn moment, .select { style := .lines }]
  have created : create {} {} ⟨2, 3⟩ {} (DeviceSettings.device { window := ⟨0, 0⟩ }) =
      .ok () first := rfl
  have live : (replay calls first).2.life.resources.isSome = true ∧
      (replay calls first).2.life.scene = { style := .lines } := by
    decide +kernel
  have presented : LoopReport.ofTurn (FrameLoop.turn moment (replay calls first).2) =
      .turned (.presented 1 1) := by
    decide +kernel
  generalize replayed : replay calls first = result at live presented
  obtain ⟨reports, after⟩ := result
  obtain ⟨indexed, shown, shows⟩ :=
    coherent_of_replay (by decide) (by decide) (by decide) created replayed
  obtain ⟨resources, present⟩ := Option.isSome_iff_exists.mp live.1
  rw [live.2] at indexed shown shows
  cases ran : FrameLoop.turn moment after with
  | error fault next =>
    rw [ran] at presented
    cases presented
  | ok outcome next =>
    rw [ran] at presented
    cases presented
    exact ⟨first, reports, after, next, created, replayed, ran, indexed,
      (shown resources present).2, (shows moment 1 1 next rfl ran).2⟩

end FrameLoop

end Waterfall

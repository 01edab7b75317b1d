import Waterfall.Proofs.Frame.Agreement

/-! # What the record of the calls shows

The record of a device tells by itself which resources are live. All of them are, once each, as long
as frames may be acquired, and none is while the surface is awaited; images are acquired, submitted
and presented only in between; and no surface without a size is ever asked for.
-/

namespace Waterfall

namespace CallRecord

/-- The number of live resources of a kind after a call. -/
def countLive (kind : ResourceKind) (live : Nat) (record : CallRecord) : Nat :=
  match record.call with
  | .create creation => if creation.kind = kind ∧ record.refused = false then live + 1 else live
  | .discard dropped => if dropped = kind then live - 1 else live
  | _ => live

/-- Whether a call neither creates nor releases a resource. -/
def keepsResources (record : CallRecord) : Bool :=
  match record.call with
  | .create _ | .discard _ => false
  | _ => true

/-- The number of live resources of a kind after calls to a new device. -/
def liveAfter (kind : ResourceKind) (calls : List CallRecord) : Nat :=
  calls.foldl (countLive kind) 0

/-- Every call that draws finds each resource live once. -/
def DrawnLive (calls : List CallRecord) : Prop :=
  ∀ index record, calls[index]? = some record → record.draws = true →
    ∀ kind, liveAfter kind (calls.take index) = 1

/-- No surface without a size is asked for. -/
def SurfacesSized (calls : List CallRecord) : Prop :=
  ∀ extent refused, ⟨.create (.surface extent), refused⟩ ∈ calls → extent.isEmpty = false

variable {calls added : List CallRecord}

theorem liveAfter_append (kind : ResourceKind) :
    liveAfter kind (calls ++ added) = added.foldl (countLive kind) (liveAfter kind calls) :=
  List.foldl_append

theorem foldl_countLive_of_keeps {kind : ResourceKind} (live : Nat)
    (keeps : ∀ record ∈ added, record.keepsResources = true) :
    added.foldl (countLive kind) live = live := by
  induction added with
  | nil => rfl
  | cons record rest ih =>
    have first := keeps record List.mem_cons_self
    have same : countLive kind live record = live := by
      unfold countLive
      unfold keepsResources at first
      split <;> simp_all
    rw [List.foldl_cons, same]
    exact ih fun other member => keeps other (List.mem_cons_of_mem _ member)

theorem DrawnLive.append (old : DrawnLive calls)
    (new : ∀ index record, added[index]? = some record → record.draws = true →
      ∀ kind, (added.take index).foldl (countLive kind) (liveAfter kind calls) = 1) :
    DrawnLive (calls ++ added) := by
  intro index record found draws kind
  obtain early | late := Nat.lt_or_ge index calls.length
  · rw [List.getElem?_append_left early] at found
    rw [List.take_append_of_le_length (Nat.le_of_lt early)]
    exact old index record found draws kind
  · rw [List.getElem?_append_right late] at found
    rw [List.take_append, List.take_of_length_le late, liveAfter_append]
    exact new _ record found draws kind

theorem SurfacesSized.append (old : SurfacesSized calls) (new : SurfacesSized added) :
    SurfacesSized (calls ++ added) := by
  intro extent refused member
  obtain member | member := List.mem_append.mp member
  · exact old extent refused member
  · exact new extent refused member

theorem surfacesSized_of_keeps (keeps : ∀ record ∈ added, record.keepsResources = true) :
    SurfacesSized added := by
  intro extent refused member
  cases keeps _ member

end CallRecord

namespace Screen

open CallRecord (countLive liveAfter DrawnLive SurfacesSized)

/-- The record shows the resources that are live, and that they were used with care. -/
structure Recorded (screen : Screen MemoryDevice) : Prop where
  live : ∀ kind, liveAfter kind screen.device.calls =
    if screen.life.resources.isSome then 1 else 0
  drawn : DrawnLive screen.device.calls
  sized : SurfacesSized screen.device.calls

variable {screen after : Screen MemoryDevice} {extent : Extent} {affected : Option Nat}
  {added : List CallRecord}

/-- Calls that do not draw may change the resources. -/
theorem Recorded.append (recorded : screen.Recorded)
    (calls : after.device.calls = screen.device.calls ++ added)
    (live : ∀ kind, added.foldl (countLive kind) (if screen.life.resources.isSome then 1 else 0) =
      if after.life.resources.isSome then 1 else 0)
    (idle : CallRecord.Idle added) (sized : SurfacesSized added) :
    after.Recorded := by
  refine ⟨?_, ?_, ?_⟩
  · intro kind
    rw [calls, CallRecord.liveAfter_append, recorded.live kind]
    exact live kind
  · rw [calls]
    refine recorded.drawn.append fun index record found draws => ?_
    rw [idle record (List.mem_of_getElem? found)] at draws
    cases draws
  · rw [calls]
    exact recorded.sized.append sized

/-- Calls that draw may be made while the surface is live. -/
theorem Recorded.append_draws (recorded : screen.Recorded)
    (calls : after.device.calls = screen.device.calls ++ added)
    (before_live : screen.life.resources.isSome = true)
    (after_live : after.life.resources.isSome = true)
    (keeps : ∀ record ∈ added, record.keepsResources = true) : after.Recorded := by
  have live (kind : ResourceKind) : liveAfter kind screen.device.calls = 1 := by
    rw [recorded.live kind, before_live, if_pos rfl]
  refine ⟨?_, ?_, ?_⟩
  · intro kind
    rw [calls, CallRecord.liveAfter_append, CallRecord.foldl_countLive_of_keeps _ keeps, live kind,
      after_live, if_pos rfl]
  · rw [calls]
    refine recorded.drawn.append fun index record found draws kind => ?_
    rw [live kind]
    exact CallRecord.foldl_countLive_of_keeps 1 fun other member =>
      keeps other (List.mem_of_mem_take member)
  · rw [calls]
    exact recorded.sized.append (CallRecord.surfacesSized_of_keeps keeps)

/-- Calls about other things leave the resources as they are. -/
theorem Recorded.append_keeps (recorded : screen.Recorded)
    (calls : after.device.calls = screen.device.calls ++ added)
    (resources : after.life.resources.isSome = screen.life.resources.isSome)
    (idle : CallRecord.Idle added) (keeps : ∀ record ∈ added, record.keepsResources = true) :
    after.Recorded := by
  refine recorded.append calls ?_ idle (CallRecord.surfacesSized_of_keeps keeps)
  intro kind
  rw [CallRecord.foldl_countLive_of_keeps _ keeps, resources]

theorem Recorded.cleared (recorded : screen.Recorded) : screen.cleared.Recorded := by
  refine recorded.append rfl ?_ ?_ ?_
  · intro kind
    cases live : screen.life.resources with
    | none => simp [clearCalls, live, countLive, CallRecord.accepted, Screen.cleared]
    | some resources =>
      simp only [clearCalls, live]
      cases kind <;> rfl
  · exact Screen.idle_clearCalls screen.life
  · unfold clearCalls SurfacesSized
    split <;> simp [ResourceKind.teardownOrder, CallRecord.accepted]

theorem keeps_slotCalls {count : Nat} :
    ∀ record ∈ MemoryDevice.slotCalls count, record.keepsResources = true := by
  intro record member
  rcases MemoryDevice.mem_slotCalls member with rfl | rfl <;> rfl

theorem Recorded.patched (recorded : screen.Recorded) (affected : Option Nat) :
    (screen.patched affected).Recorded := by
  cases affected with
  | none => exact recorded
  | some index =>
    exact recorded.append_keeps rfl rfl (.cons rfl CallRecord.idle_nil)
      (by simp [CallRecord.keepsResources, CallRecord.accepted])

theorem Recorded.fitted (recorded : screen.Recorded) (imageCount : Nat) (affected : Option Nat) :
    (screen.fitted imageCount affected).Recorded := by
  rw [Screen.fitted]
  split
  · exact recorded.append_keeps rfl rfl (MemoryDevice.idle_slotCalls _) keeps_slotCalls
  · exact recorded.patched affected

/-- Attempts that are refused leave nothing behind. -/
theorem foldl_refusals (sizes : Nat → Extent) (count : Nat) (kind : ResourceKind) (live : Nat) :
    (refusals sizes count).foldl (countLive kind) live = live := by
  rw [refusals, List.foldl_map]
  induction count with
  | zero => rfl
  | succ count ih =>
    rw [List.range_succ, List.foldl_append, ih]
    simp [countLive, CallRecord.refusedSurface]

theorem surfacesSized_refusals {sizes : Nat → Extent} {count : Nat}
    (sized : ∀ attempt, (sizes attempt).isEmpty = false) :
    SurfacesSized (refusals sizes count) := by
  rintro _ _ member
  obtain ⟨attempt, _, same⟩ := List.mem_map.mp member
  cases same
  exact sized attempt

theorem surfacesSized_creations {scene : Scene} {imageCount : Nat}
    (sized : extent.isEmpty = false) :
    SurfacesSized (SurfaceResources.creations (SurfaceResources.plan extent scene imageCount)) := by
  rintro _ _ member
  simp [SurfaceResources.creations, SurfaceResources.plan, CallRecord.accepted] at member
  obtain ⟨rfl, _⟩ := member
  exact sized

/-- A build creates each resource once, whatever was refused before. -/
theorem Recorded.built {sizes : Nat → Extent} {count imageCount : Nat} {scene : Scene}
    (recorded : screen.Recorded) (attempt : Nat) (awaited : screen.life.resources = none)
    (sized : ∀ attempt, (sizes attempt).isEmpty = false)
    (calls : after.device.calls = screen.device.calls ++ (refusals sizes count ++
      SurfaceResources.buildCalls (sizes attempt) scene imageCount))
    (now : after.life.resources.isSome = true) : after.Recorded := by
  refine recorded.append calls ?_ ?_ ?_
  · intro kind
    rw [List.foldl_append, foldl_refusals, awaited, now]
    cases kind <;> rfl
  · exact (idle_refusals _ _).append (SurfaceResources.idle_buildCalls _ _ _)
  · refine (surfacesSized_refusals sized).append ((surfacesSized_creations (sized _)).append ?_)
    exact CallRecord.surfacesSized_of_keeps (by simp; rfl)

/-- A build that ends at its command buffers releases each resource again. -/
theorem Recorded.abandoned {sizes : Nat → Extent} {count imageCount attempt : Nat} {scene : Scene}
    (recorded : screen.Recorded) (awaited : screen.life.resources = none)
    (sized : ∀ attempt, (sizes attempt).isEmpty = false)
    (calls : after.device.calls = screen.device.calls ++ (refusals sizes count ++
      SurfaceResources.abandonedCalls (sizes attempt) scene imageCount))
    (still : after.life.resources = none) : after.Recorded := by
  refine recorded.append calls ?_ ?_ ?_
  · intro kind
    rw [List.foldl_append, foldl_refusals, awaited, still]
    cases kind <;> rfl
  · exact (idle_refusals _ _).append (SurfaceResources.idle_abandonedCalls _ _ _)
  · refine (surfacesSized_refusals sized).append ((surfacesSized_creations (sized _)).append ?_)
    intro extent refused member
    obtain ⟨creation, _, same⟩ := List.mem_map.mp member
    cases same

/-- Earlier notices do not matter to the record. -/
theorem Recorded.of_notices {notices : List Notice} (recorded : screen.Recorded) :
    Recorded { screen with notices } :=
  ⟨recorded.live, recorded.drawn, recorded.sized⟩

/-- A rebuild is recorded, however it ends. -/
theorem Recorded.rebuild {result : EStateM.Result Fault (Screen MemoryDevice) SurfaceState}
    (recorded : screen.Recorded) (agrees : screen.Agrees)
    (ended : RebuildEnd extent affected screen result) : (leftBy result).Recorded := by
  cases ended with
  | deferred notices empty =>
    exact (recorded.cleared.patched affected).of_notices
  | rebuilt notices sized enough fits =>
    have installed : (screen.cleared.installed (attemptSize screen.life extent)).Recorded :=
      recorded.cleared.built _ rfl (agrees.attemptSize_sized sized) rfl rfl
    exact (installed.fitted screen.device.imageCount affected).of_notices
  | exhausted notices sized few =>
    refine recorded.cleared.append rfl ?_ (idle_refusals _ _)
      (surfacesSized_refusals (agrees.attemptSize_sized sized))
    intro kind
    rw [foldl_refusals]
    rfl
  | oversized notices sized enough unfit =>
    exact recorded.cleared.abandoned rfl (agrees.attemptSize_sized sized) rfl rfl

theorem Recorded.rescened (recorded : screen.Recorded) (scene : Scene) :
    (screen.rescened scene).Recorded := by
  refine recorded.append rfl ?_ ?_ ?_
  · intro kind
    cases live : screen.life.resources with
    | none => simp [Screen.rescened, live]
    | some resources =>
      simp only [pipelineCalls, Screen.rescened, live]
      cases kind <;> rfl
  · split
    · exact idle_pipelineCalls scene
    · exact CallRecord.idle_nil
  · unfold SurfacesSized
    split <;> simp [pipelineCalls, CallRecord.accepted]

end Screen

namespace FrameLoop

open Screen (Recorded)

variable {loop : FrameLoop MemoryDevice} {resources : SurfaceResources} {guard : FenceId}
  {moment : Moment}

theorem recorded_rebuildPending {result : EStateM.Result Fault (FrameLoop MemoryDevice) Unit}
    (agrees : loop.Agrees) (recorded : loop.toScreen.Recorded) (ended : PendingEnd loop result) :
    (leftBy result).toScreen.Recorded := by
  cases ended with
  | idle unscheduled => exact recorded
  | rebuilt scheduled ended => exact recorded.rebuild agrees.screen ended
  | failed scheduled ended => exact recorded.rebuild agrees.screen ended

theorem keeps_overlayCalls {overlay : Overlay} {frame : Nat} :
    ∀ record ∈ MemoryDevice.overlayCalls overlay frame, record.keepsResources = true := by
  unfold MemoryDevice.overlayCalls
  split <;> simp [CallRecord.keepsResources, CallRecord.accepted]

theorem keeps_drawCalls {overlay : Overlay} {frame image : Nat} {history : History Point}
    {held : Bool} :
    ∀ record ∈ MemoryDevice.drawCalls overlay frame history image guard held,
      record.keepsResources = true := by
  intro record member
  obtain rendered | member := List.mem_append.mp member
  · exact keeps_overlayCalls record rendered
  · simp only [List.mem_cons, List.not_mem_nil, or_false] at member
    rcases member with rfl | rfl | rfl | rfl | rfl <;> rfl

theorem recorded_asked {result : EStateM.Result Fault (FrameLoop MemoryDevice) TurnOutcome}
    (agrees : loop.Agrees) (recorded : loop.toScreen.Recorded)
    (serves : loop.Serves resources guard) (ended : AskedEnd moment loop resources guard result) :
    (leftBy result).toScreen.Recorded := by
  have live : loop.life.resources.isSome = true := by rw [serves.live]; rfl
  have asked : (loop.asked guard).toScreen.Recorded := by
    refine recorded.append_draws rfl live live ?_
    simp [CallRecord.keepsResources, CallRecord.accepted]
  have supplied : (loop.supplied guard resources).toScreen.Recorded := by
    refine recorded.append_draws rfl live rfl ?_
    simp [CallRecord.keepsResources, CallRecord.accepted]
  cases ended with
  | recreated outdated ended => exact asked.rebuild (agrees.asked_screen serves) ended
  | recreateFailed outdated ended => exact asked.rebuild (agrees.asked_screen serves) ended
  | acquireTimeout current late => exact asked
  | uncounted current prompt uncounted =>
    refine supplied.append_draws rfl rfl rfl ?_
    intro record member
    obtain rendered | member := List.mem_append.mp member
    · exact keeps_overlayCalls record rendered
    · rw [List.mem_singleton.mp member]
      rfl
  | presented notices current prompt counted =>
    exact supplied.append_draws rfl rfl rfl keeps_drawCalls

theorem recorded_select (recorded : loop.toScreen.Recorded) (scene : Scene) :
    (leftBy (selectScene scene loop)).toScreen.Recorded := by
  have ended := selectScene_end scene loop
  generalize selectScene scene loop = result at ended
  cases ended with
  | same same => exact recorded
  | unnumbered restyled unnumbered =>
    exact recorded.append_keeps rfl rfl (.cons rfl CallRecord.idle_nil)
      (by simp [CallRecord.keepsResources, CallRecord.accepted])
  | @restyled indices notices restyled generated =>
    have reindexed : Recorded { loop.toScreen with device := loop.device.reindexed indices } :=
      recorded.append_keeps rfl rfl (.cons rfl (.cons rfl CallRecord.idle_nil))
        (by simp [CallRecord.keepsResources, CallRecord.accepted])
    exact (reindexed.rescened scene).of_notices
  | rescened notices different kept => exact (recorded.rescened scene).of_notices

theorem recorded_shutdown (recorded : loop.toScreen.Recorded) :
    (leftBy loop.shutdown).toScreen.Recorded := by
  obtain ⟨notices, ended⟩ := shutdown_eq loop
  rw [ended]
  have awaited : Recorded
      { loop.toScreen with
        device := loop.device.prepare
          (loop.slots.map fun slot => .accepted (.waitFence slot.inFlight loop.guardTimeout)) 0 0
        notices } := by
    refine recorded.append_keeps rfl rfl (CallRecord.idle_map _ fun _ => rfl) ?_
    intro record member
    obtain ⟨slot, _, rfl⟩ := List.mem_map.mp member
    rfl
  exact awaited.cleared

/-- Every call is recorded, also one that fails. -/
theorem recorded_run (agrees : loop.Agrees) (recorded : loop.toScreen.Recorded) (call : LoopCall) :
    (call.run loop).2.toScreen.Recorded := by
  refine LoopCall.run_keeps (motive := fun loop => loop.toScreen.Recorded) ?_ ?_ ?_ ?_ ?_
  · intro moment
    refine agrees.turn_keeps (motive := fun loop => loop.toScreen.Recorded) ?_ ?_ ?_
    · intro result ended
      exact recorded_rebuildPending agrees recorded ended
    · intro ready guard recorded
      exact recorded.append_keeps rfl rfl (.cons rfl CallRecord.idle_nil)
        (by simp [CallRecord.keepsResources])
    · intro ready resources guard result agrees serves ended recorded
      exact recorded_asked agrees recorded serves ended
  · intro extent
    exact ⟨recorded.live, recorded.drawn, recorded.sized⟩
  · exact recorded_select recorded
  · exact recorded_shutdown recorded
  · intro settings _
    exact ⟨recorded.live, recorded.drawn, recorded.sized⟩

/-- A loop that was just created on a new device is recorded. -/
theorem recorded_of_created {config : RenderConfig} {camera : Camera} {layout : Layout}
    {overlay : Overlay} {settings : DeviceSettings}
    (created : Created config camera layout overlay settings.device loop) :
    loop.toScreen.Recorded := by
  let bare := unstarted config camera layout overlay settings.device
  have empty_record : bare.toScreen.Recorded := by
    refine ⟨fun kind => rfl, ?_, ?_⟩
    · intro index record found
      cases found
    · intro extent refused member
      cases member
  have queried (indices : List Nat) : (queriedScreen config indices settings.device).Recorded :=
    empty_record.append_keeps rfl rfl (.cons rfl (.cons rfl CallRecord.idle_nil))
      (by simp [CallRecord.keepsResources, CallRecord.accepted])
  have opened {screen : Screen MemoryDevice} (recorded : screen.Recorded) (count : Nat) :
      (screen.opened count).Recorded :=
    recorded.append_keeps rfl rfl (MemoryDevice.idle_slotCalls _) Screen.keeps_slotCalls
  cases created with
  | @deferred indices notices generated empty => exact (opened (queried indices) _).of_notices
  | @built indices notices generated sized ready fits =>
    have calls : (builtScreen config indices settings.device).device.calls =
        (queriedScreen config indices settings.device).device.calls ++
          (Screen.refusals (fun _ => settings.device.window) 0 ++
            SurfaceResources.buildCalls settings.device.window config.scene
              settings.device.imageCount) := rfl
    have built : (builtScreen config indices settings.device).Recorded :=
      (queried indices).built 0 rfl (fun _ => sized) calls rfl
    exact (opened built _).of_notices

end FrameLoop

end Waterfall

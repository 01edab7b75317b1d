import Mathlib.Logic.ExistsUnique
import Waterfall.Proofs.Frame.Safety

/-! # The surface follows the window

As long as every surface that is asked for can be created, the loop never loses a size: the surface
has the size that was reported last, or a rebuild at that size is scheduled, or the window has no
size and there is no surface. Sizes that follow each other without a turn cost one rebuild, at the
last of them.
-/

namespace Waterfall

namespace CallRecord

/-- The size of the surface that a call created. -/
def surface? (record : CallRecord) : Option Extent :=
  match record.call with
  | .create (.surface extent) => if record.refused then none else some extent
  | _ => none

theorem surface?_of_keeps {record : CallRecord} (keeps : record.keepsResources = true) :
    record.surface? = none := by
  obtain ⟨call, refused⟩ := record
  cases call with
  | create creation => cases keeps
  | _ => rfl

end CallRecord

namespace MemoryDevice

/-- The sizes of the surfaces that were created, in order. -/
def surfaces (device : MemoryDevice) : List Extent := device.calls.filterMap CallRecord.surface?

/-- No call was refused. -/
def Unrefused (device : MemoryDevice) : Prop := ∀ record ∈ device.calls, record.refused = false

variable {device after : MemoryDevice} {added : List CallRecord}

theorem surfaces_append (calls : after.calls = device.calls ++ added) :
    after.surfaces = device.surfaces ++ added.filterMap CallRecord.surface? := by
  rw [surfaces, calls, List.filterMap_append]
  rfl

/-- Calls that neither create nor release anything create no surface. -/
theorem surfaces_of_keeps (calls : after.calls = device.calls ++ added)
    (keeps : ∀ record ∈ added, record.keepsResources = true) :
    after.surfaces = device.surfaces := by
  have none_created : added.filterMap CallRecord.surface? = [] :=
    List.filterMap_eq_nil_iff.mpr fun record member =>
      CallRecord.surface?_of_keeps (keeps record member)
  rw [surfaces_append calls, none_created, List.append_nil]

theorem Unrefused.of_prefix (unrefused : after.Unrefused) (grown : device.calls <+: after.calls) :
    device.Unrefused :=
  fun record member => unrefused record (grown.subset member)

theorem IdleTo.calls_grown (idle : device.IdleTo after) : device.calls <+: after.calls := by
  obtain ⟨added, _, calls⟩ := idle.calls
  exact ⟨added, calls.symm⟩

theorem PreparesTo.failingBuilds_le (prepares : device.PreparesTo after) :
    after.failingBuilds ≤ device.failingBuilds := by
  obtain ⟨added, guards, refused, _, rfl⟩ := prepares
  exact Nat.sub_le _ _

theorem PreparesTo.calls_grown (prepares : device.PreparesTo after) :
    device.calls <+: after.calls :=
  prepares.idleTo.calls_grown

end MemoryDevice

/-- How the surface stands to the size of the window. -/
inductive SizeStanding
  /-- A rebuild at the window's size is scheduled. -/
  | scheduled
  /-- The surface has the window's size. -/
  | fitted
  /-- The window has no size, and there is no surface. -/
  | asleep
deriving DecidableEq, Repr

namespace SizeStanding

/-- The surface stands like this to a window of a size. -/
def Holds (window : Extent) (life : SurfaceLifecycle) : SizeStanding → Prop
  | scheduled => life.pending = some window
  | fitted =>
    life.pending = none ∧ life.isValid = true ∧ life.extent? = some window ∧ window.isEmpty = false
  | asleep => life.pending = none ∧ life.resources = none ∧ window.isEmpty = true

/-- The surface stands to the window in one way at most. -/
theorem Holds.unique {window : Extent} {life : SurfaceLifecycle} {first second : SizeStanding}
    (one : first.Holds window life) (other : second.Holds window life) : first = second := by
  cases first <;> cases second <;> simp_all [Holds]

end SizeStanding

namespace Screen

open SizeStanding (Holds)

variable {screen : Screen MemoryDevice} {extent : Extent} {affected : Option Nat}
  {result : EStateM.Result Fault (Screen MemoryDevice) SurfaceState}

/-- The sizes of the surfaces that a rebuild creates are not those of the frame slots. -/
theorem surfaces_fitted (imageCount : Nat) (affected : Option Nat) (screen : Screen MemoryDevice) :
    (screen.fitted imageCount affected).device.surfaces = screen.device.surfaces := by
  rw [fitted]
  split
  · exact MemoryDevice.surfaces_of_keeps rfl keeps_slotCalls
  · cases affected with
    | none => rfl
    | some index =>
      have keeps : ∀ record ∈ [CallRecord.accepted (.createFence true)],
          record.keepsResources = true := by
        simp [CallRecord.keepsResources, CallRecord.accepted]
      exact MemoryDevice.surfaces_of_keeps rfl keeps

theorem surfaces_cleared (screen : Screen MemoryDevice) :
    screen.cleared.device.surfaces = screen.device.surfaces := by
  have none_created : (clearCalls screen.life).filterMap CallRecord.surface? = [] := by
    unfold clearCalls
    split <;> rfl
  have calls : screen.cleared.device.calls = screen.device.calls ++ clearCalls screen.life := rfl
  rw [MemoryDevice.surfaces_append calls, none_created, List.append_nil]

/-- The surface has a size, and a number of rebuilds, all of them at that size, led to it. -/
structure Resized (extent : Extent) (rebuilds : Nat) (before after : Screen MemoryDevice) :
    Prop where
  valid : after.life.isValid = true
  extent_eq : after.life.extent? = some extent
  recreations : after.life.recreations = before.life.recreations + rebuilds
  surfaces : after.device.surfaces = before.device.surfaces ++ List.replicate rebuilds extent

theorem Resized.trans {first second : Nat} {before middle after : Screen MemoryDevice}
    (one : Resized extent first before middle) (other : Resized extent second middle after) :
    Resized extent (first + second) before after where
  valid := other.valid
  extent_eq := other.extent_eq
  recreations := by rw [other.recreations, one.recreations, Nat.add_assoc]
  surfaces := by
    rw [other.surfaces, one.surfaces, List.append_assoc, List.replicate_append_replicate]

theorem Resized.refl (valid : screen.life.isValid = true)
    (fits : screen.life.extent? = some extent) : Resized extent 0 screen screen :=
  ⟨valid, fits, rfl, (List.append_nil _).symm⟩

/-- A surface that is used keeps its size. -/
theorem Resized.used {rebuilds : Nat} {before middle after : Screen MemoryDevice}
    {added : List CallRecord} (resized : Resized extent rebuilds before middle)
    (state : after.life.state = middle.life.state)
    (fits : after.life.extent? = middle.life.extent?)
    (recreations : after.life.recreations = middle.life.recreations)
    (calls : after.device.calls = middle.device.calls ++ added)
    (keeps : ∀ record ∈ added, record.keepsResources = true) :
    Resized extent rebuilds before after where
  valid := by
    rw [SurfaceLifecycle.isValid, state]
    exact resized.valid
  extent_eq := fits.trans resized.extent_eq
  recreations := recreations.trans resized.recreations
  surfaces := (MemoryDevice.surfaces_of_keeps calls keeps).trans resized.surfaces

theorem RebuildEnd.pending_eq (ended : RebuildEnd extent affected screen result) :
    (leftBy result).life.pending = none := by
  cases ended with
  | deferred notices empty => simp [leftBy, cleared]
  | rebuilt notices sized enough fits => simp [leftBy, installed, cleared]
  | exhausted notices sized few => rfl
  | oversized notices sized enough unfit => rfl

/-- On a device that refuses nothing, a rebuild at a size ends with a surface of that size. -/
theorem RebuildEnd.resized (ended : RebuildEnd extent affected screen result)
    (sized : extent.isEmpty = false) (ready : screen.device.failingBuilds = 0)
    (fits : screen.device.imageCount < Word.storageLimit) :
    ∃ after, result = .ok .valid after ∧ Resized extent 1 screen after := by
  cases ended with
  | deferred notices empty => cases sized.symm.trans empty
  | rebuilt notices sized enough fits =>
    have calls : (screen.cleared.installed (attemptSize screen.life extent)).device.calls =
        screen.cleared.device.calls ++
          SurfaceResources.buildCalls extent screen.life.scene screen.device.imageCount := by
      simp [installed, cleared, MemoryDevice.prepare, ready, refusals, attemptSize]
    refine ⟨_, rfl, ?_, ?_, ?_, ?_⟩
    · simp [installed, SurfaceLifecycle.isValid]
    · simp [installed, cleared, SurfaceLifecycle.extent?, SurfaceResources.built, ready,
        attemptSize]
    · simp [installed, cleared]
    · change (fitted screen.device.imageCount affected _).device.surfaces = _
      rw [surfaces_fitted, MemoryDevice.surfaces_append calls, surfaces_cleared]
      rfl
  | exhausted notices sized few => omega
  | oversized notices sized enough unfit => omega

/-- Where no call was refused, none of the attempts was. -/
theorem count_eq_zero_of_unrefused {sizes : Nat → Extent} {count : Nat}
    (none_refused : ∀ record ∈ refusals sizes count, record.refused = false) : count = 0 := by
  cases count with
  | zero => rfl
  | succ count =>
    have first : .refusedSurface (sizes 0) ∈ refusals sizes (count + 1) := by
      rw [refusals_succ]
      exact List.mem_cons_self
    cases none_refused _ first

/-- A rebuild to which no surface is refused, and that finds room for the images, leaves the surface
as a window of its size demands. -/
theorem RebuildEnd.holds (ended : RebuildEnd extent affected screen result)
    (unrefused : (leftBy result).device.Unrefused)
    (roomy : Roomy result) :
    ∃ standing, Holds extent (leftBy result).life standing := by
  have fitting := ended
  cases ended with
  | deferred notices empty =>
    exact ⟨.asleep, by simp [leftBy, cleared], by simp [leftBy, cleared], empty⟩
  | rebuilt notices sized enough fits =>
    let sizes := attemptSize screen.life extent
    have built : (screen.cleared.installed sizes).device.Unrefused :=
      unrefused.of_prefix (preparesTo_fitted screen.device.imageCount affected _).calls_grown
    have attempts : ∀ record ∈ refusals sizes screen.device.failingBuilds,
        record.refused = false :=
      fun record member => built record (List.mem_append_right _ (List.mem_append_left _ member))
    have none_refused := count_eq_zero_of_unrefused attempts
    obtain ⟨after, same, resized⟩ := fitting.resized sized none_refused fits
    have unscheduled := fitting.pending_eq
    cases same
    exact ⟨.fitted, unscheduled, resized.valid, resized.extent_eq, sized⟩
  | exhausted notices sized few =>
    have none_tried : max screen.life.maxAttempts 1 = 0 :=
      count_eq_zero_of_unrefused fun record member =>
        unrefused record (List.mem_append_right _ member)
    omega
  | oversized notices sized enough unfit => exact absurd rfl roomy

end Screen

namespace LoopCall

/-- The size of the window that a call reports. -/
def reported? : LoopCall → Option Extent
  | .resize extent => some extent
  | _ => none

end LoopCall

/-- The size of the window after calls: the one reported last, or the one it had before. -/
def lastReported (window : Extent) (calls : List LoopCall) : Extent :=
  (calls.filterMap LoopCall.reported?).getLastD window

theorem lastReported_cons (window : Extent) (call : LoopCall) (rest : List LoopCall) :
    lastReported window (call :: rest) = lastReported (call.reported?.getD window) rest := by
  cases reported : call.reported? with
  | none => rw [lastReported, List.filterMap_cons_none reported, Option.getD_none, lastReported]
  | some extent =>
    rw [lastReported, List.filterMap_cons_some reported, List.getLastD_cons, Option.getD_some,
      lastReported]

namespace FrameLoop

open SizeStanding (Holds)

variable {loop next : FrameLoop MemoryDevice} {resources : SurfaceResources} {guard : FenceId}
  {moment : Moment} {extent : Extent}

/-- A loop whose surface stands to the window in one of the three ways. -/
def Follows (loop : FrameLoop MemoryDevice) : Prop :=
  ∃ standing, Holds loop.windowExtent loop.life standing

theorem Follows.of_same (follows : loop.Follows) (window : next.windowExtent = loop.windowExtent)
    (pending : next.life.pending = loop.life.pending) (state : next.life.state = loop.life.state)
    (extent : next.life.extent? = loop.life.extent?) : next.Follows := by
  obtain ⟨standing, holds⟩ := follows
  have empty (life : SurfaceLifecycle) : life.extent? = none ↔ life.resources = none :=
    Option.map_eq_none_iff
  refine ⟨standing, ?_⟩
  rw [window]
  cases standing with
  | scheduled => exact pending.trans holds
  | fitted =>
    obtain ⟨unscheduled, valid, fits, sized⟩ := holds
    refine ⟨pending.trans unscheduled, ?_, extent.trans fits, sized⟩
    rw [SurfaceLifecycle.isValid, state]
    exact valid
  | asleep =>
    obtain ⟨unscheduled, none_live, empty_window⟩ := holds
    have none_next := (empty _).mp (extent.trans ((empty _).mpr none_live))
    exact ⟨pending.trans unscheduled, none_next, empty_window⟩

/-- A rebuild that is scheduled is one at the window's size. -/
theorem Follows.scheduled_eq (follows : loop.Follows)
    (scheduled : loop.life.pending = some extent) : extent = loop.windowExtent := by
  obtain ⟨standing, holds⟩ := follows
  cases standing with
  | scheduled => exact Option.some.inj (scheduled.symm.trans holds)
  | fitted => cases scheduled.symm.trans holds.1
  | asleep => cases scheduled.symm.trans holds.1

theorem Follows.rebuildPending {result : EStateM.Result Fault (FrameLoop MemoryDevice) Unit}
    (follows : loop.Follows) (ended : PendingEnd loop result)
    (unrefused : (leftBy result).device.Unrefused)
    (roomy : Roomy result) : (leftBy result).Follows := by
  cases ended with
  | idle unscheduled => exact follows
  | rebuilt scheduled ended =>
    obtain rfl := follows.scheduled_eq scheduled
    exact ended.holds unrefused trivial
  | failed scheduled ended =>
    obtain rfl := follows.scheduled_eq scheduled
    exact ended.holds unrefused roomy

/-- What follows the request for an image keeps the surface at the window's size, or schedules a
rebuild at it. -/
theorem Follows.asked {result : EStateM.Result Fault (FrameLoop MemoryDevice) TurnOutcome}
    (follows : loop.Follows) (serves : loop.Serves resources guard)
    (ended : AskedEnd moment loop resources guard result)
    (unrefused : (leftBy result).device.Unrefused)
    (roomy : Roomy result) : (leftBy result).Follows := by
  have handed : (loop.supplied guard resources).life.extent? = loop.life.extent? := by
    rw [SurfaceLifecycle.extent?, SurfaceLifecycle.extent?, serves.live]
    rfl
  cases ended with
  | recreated outdated ended => exact ended.holds unrefused trivial
  | recreateFailed outdated ended => exact ended.holds unrefused roomy
  | acquireTimeout current late => exact follows.of_same rfl rfl rfl rfl
  | uncounted current prompt uncounted => exact follows.of_same rfl rfl rfl handed
  | presented notices current prompt counted =>
    by_cases changed : loop.device.presents ∈ loop.device.suboptimalOn
    · refine ⟨.scheduled, ?_⟩
      exact if_pos changed
    · refine follows.of_same rfl ?_ rfl handed
      exact if_neg changed

/-- What follows the request for an image adds calls to the record. -/
theorem AskedEnd.calls_grown {result : EStateM.Result Fault (FrameLoop MemoryDevice) TurnOutcome}
    (ended : AskedEnd moment loop resources guard result) :
    loop.device.calls <+: (leftBy result).device.calls := by
  have asked : loop.device.calls <+: (loop.asked guard).device.calls := List.prefix_append _ _
  cases ended with
  | recreated outdated ended => exact asked.trans ended.preparesTo.calls_grown
  | recreateFailed outdated ended => exact asked.trans ended.preparesTo.calls_grown
  | acquireTimeout current late => exact asked
  | uncounted current prompt uncounted => exact asked.trans (List.prefix_append _ _)
  | presented notices current prompt counted => exact asked.trans (List.prefix_append _ _)

/-- A call adds to the record and takes nothing away. -/
theorem Agrees.calls_grown (agrees : loop.Agrees) (call : LoopCall) :
    loop.device.calls <+: (call.run loop).2.device.calls := by
  obtain ⟨moment, rfl⟩ | other := call.turn_or
  · rw [LoopCall.run_turn]
    refine agrees.turn_keeps (motive := fun next => loop.device.calls <+: next.device.calls)
      ?_ ?_ ?_
    · intro result ended
      exact ended.preparesTo.calls_grown
    · intro ready guard grown
      exact grown.trans (List.prefix_append _ _)
    · intro ready resources guard result _ _ ended grown
      exact grown.trans ended.calls_grown
  · exact (LoopCall.idleTo_run other).calls_grown

theorem Follows.turn (moment : Moment) (follows : loop.Follows) (agrees : loop.Agrees)
    (unrefused : (leftBy (loop.turn moment)).device.Unrefused) (roomy : Roomy (loop.turn moment)) :
    (leftBy (loop.turn moment)).Follows := by
  generalize ran : loop.turn moment = result at unrefused roomy
  cases agrees.turn_end ran with
  | rebuildFailed failed =>
    have pending := PendingEnd.of_run failed
    exact follows.rebuildPending pending unrefused roomy
  | skipped rebuilt invalid =>
    have pending := PendingEnd.of_run rebuilt
    exact follows.rebuildPending pending unrefused trivial
  | guardTimeout rebuilt serves unsignaled =>
    have pending := PendingEnd.of_run rebuilt
    have before := unrefused.of_prefix (List.prefix_append _ _)
    exact (follows.rebuildPending pending before trivial).of_same rfl rfl rfl rfl
  | asked rebuilt serves signaled ended =>
    have pending := PendingEnd.of_run rebuilt
    have before := unrefused.of_prefix ended.calls_grown
    exact (follows.rebuildPending pending before trivial).asked serves ended unrefused roomy

theorem Follows.select (follows : loop.Follows) (scene : Scene) :
    (leftBy (selectScene scene loop)).Follows := by
  have rescened : (loop.life.resources.map fun resources => { resources with scene }).map
      SurfaceResources.extent = loop.life.extent? := by
    rw [Option.map_map]
    rfl
  have ended := selectScene_end scene loop
  generalize selectScene scene loop = result at ended
  cases ended with
  | same same => exact follows
  | unnumbered restyled unnumbered => exact follows.of_same rfl rfl rfl rfl
  | restyled notices restyled generated => exact follows.of_same rfl rfl rfl rescened
  | rescened notices different kept => exact follows.of_same rfl rfl rfl rescened

/-- Every call but a shutdown keeps the surface at the window's size or on the way to it, as long as
no surface is refused. -/
theorem Follows.run {call : LoopCall} (follows : loop.Follows) (agrees : loop.Agrees)
    (running : call ≠ .shutdown) (unrefused : (call.run loop).2.device.Unrefused)
    (roomy : (call.run loop).1 ≠ .failed (.breach .overflow)) : (call.run loop).2.Follows := by
  have ended := call.run_end loop
  generalize call.run loop = result at ended unrefused roomy
  cases ended with
  | @turned moment outcome after ran =>
    have turned := follows.turn moment agrees
    rw [ran] at turned
    exact turned unrefused trivial
  | @turnFailed moment fault after ran =>
    have turned := follows.turn moment agrees
    rw [ran] at turned
    exact turned unrefused fun same => roomy (congrArg LoopReport.failed same)
  | resized extent => exact ⟨.scheduled, rfl⟩
  | @selected scene after ran =>
    have selected := follows.select scene
    rwa [ran] at selected
  | @selectFailed scene fault after ran =>
    have selected := follows.select scene
    rwa [ran] at selected
  | shutDown ran => exact absurd rfl running
  | configured settings => exact follows.of_same rfl rfl rfl rfl

theorem follows_of_created {config : RenderConfig} {camera : Camera} {layout : Layout}
    {overlay : Overlay} {device : MemoryDevice}
    (created : Created config camera layout overlay device loop) : loop.Follows := by
  cases created with
  | deferred notices generated empty => exact ⟨.asleep, rfl, rfl, empty⟩
  | built notices generated sized ready fits => exact ⟨.fitted, rfl, rfl, rfl, sized⟩

/-- Only a resize changes the size that the loop knows of the window. -/
theorem Agrees.windowExtent_run (agrees : loop.Agrees) (call : LoopCall) :
    (call.run loop).2.windowExtent = call.reported?.getD loop.windowExtent := by
  cases call with
  | turn moment =>
    rw [LoopCall.run_turn]
    refine agrees.turn_keeps (motive := fun next => next.windowExtent = loop.windowExtent)
      ?_ ?_ ?_
    · intro result ended
      cases ended <;> rfl
    · intro ready guard same
      exact same
    · intro ready resources guard result _ _ ended same
      cases ended <;> exact same
  | resize extent => rfl
  | select scene =>
    have ended := LoopCall.run_end (.select scene) loop
    generalize LoopCall.run (.select scene) loop = result at ended
    have selected := selectScene_end scene loop
    cases ended with
    | selected ran =>
      rw [ran] at selected
      cases selected <;> rfl
    | selectFailed ran =>
      rw [ran] at selected
      cases selected
      rfl
  | shutdown =>
    have ended := LoopCall.run_end .shutdown loop
    generalize LoopCall.run .shutdown loop = result at ended
    obtain ⟨notices, shut⟩ := shutdown_eq loop
    cases ended with
    | shutDown ran =>
      rw [shut] at ran
      cases ran
      rfl
  | configure settings => rfl

theorem Agrees.windowExtent_replay (agrees : loop.Agrees) (calls : List LoopCall) :
    (replay calls loop).2.windowExtent = lastReported loop.windowExtent calls := by
  induction calls generalizing loop with
  | nil => rfl
  | cons call rest ih =>
    rw [lastReported_cons, ← agrees.windowExtent_run call]
    exact ih (agrees.run call)

/-- Of sizes that follow each other only the last one is known. -/
theorem replay_resizes (burst : List Extent) (extent : Extent) (loop : FrameLoop MemoryDevice) :
    (replay ((burst ++ [extent]).map .resize) loop).2 =
      { loop with
        windowExtent := extent
        life := { loop.life with pending := some extent } } := by
  induction burst generalizing loop with
  | nil => rfl
  | cons first rest ih => exact ih _

theorem replay_append (first second : List LoopCall) (loop : FrameLoop MemoryDevice) :
    (replay (first ++ second) loop).2 = (replay second (replay first loop).2).2 := by
  induction first generalizing loop with
  | nil => rfl
  | cons call rest ih => exact ih _

/-- The acquisition of a call found the surface out of date. -/
def Outdated (before after : FrameLoop MemoryDevice) : Prop :=
  after.device.acquires = before.device.acquires + 1 ∧
    before.device.acquires ∈ before.device.outOfDateOn

instance (before after : FrameLoop MemoryDevice) : Decidable (Outdated before after) :=
  inferInstanceAs (Decidable (_ ∧ _))

/-- What follows the request for an image rebuilds the surface once more only if it is out of date,
and at the same size. -/
theorem AskedEnd.resized {result : EStateM.Result Fault (FrameLoop MemoryDevice) TurnOutcome}
    (serves : loop.Serves resources guard) (fits : loop.life.extent? = some loop.windowExtent)
    (sized : loop.windowExtent.isEmpty = false) (ready : loop.device.failingBuilds = 0)
    (roomy : loop.device.imageCount < Word.storageLimit)
    (ended : AskedEnd moment loop resources guard result) :
    Screen.Resized loop.windowExtent (if Outdated loop (leftBy result) then 1 else 0)
      loop.toScreen (leftBy result).toScreen := by
  have valid : loop.life.isValid = true := by
    rw [SurfaceLifecycle.isValid, serves.valid]
    rfl
  have handed : (loop.supplied guard resources).life.extent? = loop.life.extent? := by
    rw [SurfaceLifecycle.extent?, SurfaceLifecycle.extent?, serves.live]
    rfl
  have before : Screen.Resized loop.windowExtent 0 loop.toScreen loop.toScreen := .refl valid fits
  have asked : Screen.Resized loop.windowExtent 0 loop.toScreen (loop.asked guard).toScreen :=
    before.used rfl rfl rfl rfl (by simp [CallRecord.keepsResources, CallRecord.accepted])
  have supplied : Screen.Resized loop.windowExtent 0 loop.toScreen
      (loop.supplied guard resources).toScreen :=
    before.used rfl handed rfl rfl (by simp [CallRecord.keepsResources, CallRecord.accepted])
  cases ended with
  | @recreated state screen outdated ended =>
    obtain ⟨after, same, resized⟩ := ended.resized sized ready roomy
    cases same
    have counted : screen.device.acquires = loop.device.acquires + 1 :=
      ended.preparesTo.idleTo.acquires
    rw [if_pos ⟨counted, outdated⟩]
    exact asked.trans resized
  | recreateFailed outdated ended =>
    obtain ⟨after, ⟨⟩, _⟩ := ended.resized sized ready roomy
  | acquireTimeout current late =>
    rw [if_neg fun outdated => current outdated.2]
    exact asked
  | uncounted current prompt uncounted =>
    rw [if_neg fun outdated => current outdated.2]
    refine supplied.used rfl rfl rfl rfl ?_
    intro record member
    obtain rendered | member := List.mem_append.mp member
    · exact keeps_overlayCalls record rendered
    · rw [List.mem_singleton.mp member]
      rfl
  | presented notices current prompt counted =>
    rw [if_neg fun outdated => current outdated.2]
    exact supplied.used rfl rfl rfl rfl keeps_drawCalls

/-- A rebuild that is scheduled at the window's size brings the surface to it. -/
theorem PendingEnd.resized {result : EStateM.Result Fault (FrameLoop MemoryDevice) Unit}
    (ended : PendingEnd loop result) (scheduled : loop.life.pending = some loop.windowExtent)
    (sized : loop.windowExtent.isEmpty = false) (willing : loop.device.failingBuilds = 0)
    (roomy : loop.device.imageCount < Word.storageLimit) :
    ∃ next, result = .ok () next ∧ next.windowExtent = loop.windowExtent ∧
      Screen.Resized loop.windowExtent 1 loop.toScreen next.toScreen ∧
      loop.device.PreparesTo next.device := by
  have prepares := ended.preparesTo
  cases ended with
  | idle unscheduled => cases scheduled.symm.trans unscheduled
  | rebuilt other ended =>
    cases scheduled.symm.trans other
    obtain ⟨after, same, resized⟩ := ended.resized sized willing roomy
    cases same
    exact ⟨_, rfl, rfl, resized, prepares⟩
  | failed other ended =>
    cases scheduled.symm.trans other
    obtain ⟨after, ⟨⟩, _⟩ := ended.resized sized willing roomy

/-- A turn that finds a rebuild scheduled at a size leaves the surface at that size, whatever else
happens in it. -/
theorem Agrees.turn_resized (agrees : loop.Agrees)
    (scheduled : loop.life.pending = some loop.windowExtent)
    (sized : loop.windowExtent.isEmpty = false) (willing : loop.device.failingBuilds = 0)
    (roomy : loop.device.imageCount < Word.storageLimit) (moment : Moment) :
    Screen.Resized loop.windowExtent
      (1 + if Outdated loop (leftBy (loop.turn moment)) then 1 else 0) loop.toScreen
      (leftBy (loop.turn moment)).toScreen := by
  have rebuilt_end {result : EStateM.Result Fault (FrameLoop MemoryDevice) Unit}
      (ran : loop.rebuildPending = result) :=
    (PendingEnd.of_run ran).resized scheduled sized willing roomy
  generalize ran : loop.turn moment = result
  cases agrees.turn_end ran with
  | rebuildFailed failed =>
    obtain ⟨next, ⟨⟩, _⟩ := rebuilt_end failed
  | skipped rebuilt invalid =>
    obtain ⟨next, ⟨⟩, _, resized, _⟩ := rebuilt_end rebuilt
    cases invalid.symm.trans resized.valid
  | @guardTimeout ready resources guard rebuilt serves unsignaled =>
    obtain ⟨next, ⟨⟩, _, resized, prepares⟩ := rebuilt_end rebuilt
    have acquires : ready.device.acquires = loop.device.acquires := prepares.idleTo.acquires
    rw [if_neg fun outdated => absurd outdated.1 (by change ready.device.acquires ≠ _; omega)]
    exact resized.used rfl rfl rfl rfl (by simp [CallRecord.keepsResources])
  | @asked ready resources guard _ rebuilt serves signaled ended =>
    obtain ⟨next, ⟨⟩, window, resized, prepares⟩ := rebuilt_end rebuilt
    have again := ended.resized serves (window ▸ resized.extent_eq) (window ▸ sized)
      (Nat.le_zero.mp (willing ▸ prepares.failingBuilds_le))
      (prepares.imageCount ▸ roomy)
    have same : Outdated ready (leftBy result) ↔ Outdated loop (leftBy result) := by
      rw [Outdated, Outdated, prepares.idleTo.acquires, prepares.outOfDateOn]
    rw [window] at again
    simp only [same] at again
    exact resized.trans again

/-- A loop whose window has no size: its surface is gone, or a rebuild without a size is scheduled
that takes it away. -/
structure Dormant (loop : FrameLoop MemoryDevice) : Prop where
  pending_empty : ∀ extent ∈ loop.life.pending, extent.isEmpty = true
  invalid : loop.life.pending = none → loop.life.isValid = false

/-- A dormant loop skips its turns and stays dormant. -/
theorem Dormant.turn (dormant : loop.Dormant) (agrees : loop.Agrees) (moment : Moment) :
    ∃ next, loop.turn moment = .ok .skipped next ∧ next.Dormant ∧
      loop.device.IdleTo next.device := by
  have of_rebuilt {next : FrameLoop MemoryDevice} (ran : loop.rebuildPending = .ok () next)
      (invalid : next.life.isValid = false) (unscheduled : next.life.pending = none) :
      ∃ next, loop.turn moment = .ok .skipped next ∧ next.Dormant ∧
        loop.device.IdleTo next.device := by
    have pending := PendingEnd.of_run ran
    refine ⟨next, (agrees.turn_skipped_iff moment next).mpr ⟨ran, invalid⟩, ?_,
      pending.preparesTo.idleTo⟩
    exact ⟨by simp [unscheduled], fun _ => invalid⟩
  obtain ⟨result, ran⟩ : ∃ result, loop.rebuildPending = result := ⟨_, rfl⟩
  have pending := PendingEnd.of_run ran
  cases pending with
  | idle unscheduled => exact of_rebuilt ran (dormant.invalid unscheduled) unscheduled
  | rebuilt scheduled ended =>
    have unscheduled := ended.pending_eq
    have empty := dormant.pending_empty _ scheduled
    cases ended with
    | deferred notices _ => exact of_rebuilt ran rfl unscheduled
    | rebuilt notices sized enough fits => cases sized.symm.trans empty
  | failed scheduled ended =>
    have empty := dormant.pending_empty _ scheduled
    cases ended with
    | exhausted notices sized few => cases sized.symm.trans empty
    | oversized notices sized enough unfit => cases sized.symm.trans empty

theorem Dormant.run {call : LoopCall} (dormant : loop.Dormant) (agrees : loop.Agrees)
    (sizeless : ∀ extent, call = .resize extent → extent.isEmpty = true) :
    (call.run loop).2.Dormant ∧ loop.device.IdleTo (call.run loop).2.device := by
  obtain ⟨moment, rfl⟩ | other := call.turn_or
  · obtain ⟨next, ran, dormant, idle⟩ := dormant.turn agrees moment
    rw [LoopCall.run_turn, ran]
    exact ⟨dormant, idle⟩
  refine ⟨?_, LoopCall.idleTo_run other⟩
  have ended := call.run_end loop
  generalize call.run loop = result at ended
  cases ended with
  | turned ran => exact absurd rfl (other _)
  | turnFailed ran => exact absurd rfl (other _)
  | resized extent =>
    refine ⟨?_, nofun⟩
    rintro _ ⟨⟩
    exact sizeless extent rfl
  | @selected scene after ran =>
    have selected := selectScene_end scene loop
    rw [ran] at selected
    cases selected <;> exact ⟨dormant.pending_empty, dormant.invalid⟩
  | @selectFailed scene fault after ran =>
    have selected := selectScene_end scene loop
    rw [ran] at selected
    cases selected
    exact ⟨dormant.pending_empty, dormant.invalid⟩
  | shutDown ran =>
    obtain ⟨notices, shut⟩ := shutdown_eq loop
    rw [shut] at ran
    cases ran
    exact ⟨nofun, fun _ => rfl⟩
  | configured settings => exact ⟨dormant.pending_empty, dormant.invalid⟩

/-- Without a size nothing is drawn, and nothing but a size changes that. -/
theorem Dormant.replay {calls : List LoopCall} (dormant : loop.Dormant) (agrees : loop.Agrees)
    (sizeless : ∀ extent, .resize extent ∈ calls → extent.isEmpty = true) :
    (replay calls loop).2.Dormant ∧ (FrameLoop.replay calls loop).2.Agrees ∧
      (FrameLoop.replay calls loop).2.device.drawings = loop.device.drawings := by
  induction calls generalizing loop with
  | nil => exact ⟨dormant, agrees, rfl⟩
  | cons call rest ih =>
    have first : ∀ extent, call = .resize extent → extent.isEmpty = true :=
      fun extent same => sizeless extent (same ▸ List.mem_cons_self)
    have others : ∀ extent, .resize extent ∈ rest → extent.isEmpty = true :=
      fun extent member => sizeless extent (List.mem_cons_of_mem _ member)
    obtain ⟨dormant_next, idle⟩ := dormant.run agrees first
    obtain ⟨dormant_last, agrees_last, drawings⟩ := ih dormant_next (agrees.run call) others
    exact ⟨dormant_last, agrees_last, drawings.trans idle.drawings_eq⟩

/-- The first turn after any sizes brings the surface to the last one. -/
theorem Agrees.burst_resized (agrees : loop.Agrees) (burst : List Extent) {extent : Extent}
    (moment : Moment) (sized : extent.isEmpty = false) (willing : loop.device.failingBuilds = 0)
    (fits : loop.device.imageCount < Word.storageLimit) :
    let next := (replay ((burst ++ [extent]).map .resize ++ [.turn moment]) loop).2
    Screen.Resized extent (1 + if Outdated loop next then 1 else 0) loop.toScreen
      next.toScreen := by
  let waiting : FrameLoop MemoryDevice :=
    { loop with windowExtent := extent, life := { loop.life with pending := some extent } }
  have waiting_agrees : waiting.Agrees := agrees.run (.resize extent)
  have resized := waiting_agrees.turn_resized rfl sized willing fits moment
  rw [replay_append, replay_resizes]
  change Screen.Resized extent (1 + if Outdated loop ((LoopCall.turn moment).run waiting).2
    then 1 else 0) loop.toScreen ((LoopCall.turn moment).run waiting).2.toScreen
  rw [LoopCall.run_turn]
  exact ⟨resized.valid, resized.extent_eq, resized.recreations, resized.surfaces⟩

/-- After a window without a size nothing is drawn until it has one again. -/
theorem Agrees.burst_dormant (agrees : loop.Agrees) (burst : List Extent) {extent : Extent}
    {rest : List LoopCall} (empty : extent.isEmpty = true)
    (sizeless : ∀ other, .resize other ∈ rest → other.isEmpty = true) :
    let waiting := (replay ((burst ++ [extent]).map .resize ++ rest) loop).2
    waiting.device.drawings = loop.device.drawings ∧
      ∀ moment, ∃ next, waiting.turn moment = .ok .skipped next ∧
        next.device.drawings = loop.device.drawings := by
  let waiting : FrameLoop MemoryDevice :=
    { loop with windowExtent := extent, life := { loop.life with pending := some extent } }
  have waiting_agrees : waiting.Agrees := agrees.run (.resize extent)
  have dormant : waiting.Dormant := by
    refine ⟨?_, nofun⟩
    rintro _ ⟨⟩
    exact empty
  obtain ⟨dormant, agrees, drawings⟩ := dormant.replay waiting_agrees sizeless
  rw [replay_append, replay_resizes]
  refine ⟨drawings, fun moment => ?_⟩
  obtain ⟨next, ran, _, idle⟩ := dormant.turn agrees moment
  exact ⟨next, ran, idle.drawings_eq.trans drawings⟩

/-- Whatever was called before, but for a shutdown, and as long as no surface was refused, the
surface has the size that the window reported last, or is scheduled to get it, or is gone together
with it. The first turn after any sizes brings the surface to the last one, with one rebuild for all
of them and a second one only if the surface is out of date at once. After a window without a size
nothing is drawn until it has one again. -/
theorem converges_of_replay {config : RenderConfig} {camera : Camera} {layout : Layout}
    {overlay : Overlay} {settings : DeviceSettings} {start after : FrameLoop MemoryDevice}
    {calls : List LoopCall} {reports : List LoopReport}
    (created : create config camera layout overlay settings.device = .ok () start)
    (replayed : replay calls start = (reports, after)) (running : .shutdown ∉ calls)
    (unrefused : after.device.Unrefused) (roomy : .failed (.breach .overflow) ∉ reports) :
    (∃! standing, Holds (lastReported settings.window calls) after.life standing) ∧
      (∀ burst extent moment, extent.isEmpty = false → after.device.failingBuilds = 0 →
        after.device.imageCount < Word.storageLimit →
        let next := (replay ((burst ++ [extent]).map .resize ++ [.turn moment]) after).2
        Screen.Resized extent (1 + if Outdated after next then 1 else 0) after.toScreen
          next.toScreen) ∧
      ∀ burst extent rest, extent.isEmpty = true →
        (∀ other, .resize other ∈ rest → other.isEmpty = true) →
        let waiting := (replay ((burst ++ [extent]).map .resize ++ rest) after).2
        waiting.device.drawings = after.device.drawings ∧
          ∀ moment, ∃ next, turn moment waiting = .ok .skipped next ∧
            next.device.drawings = after.device.drawings := by
  have created := created_of_create created
  have started := agrees_of_created settings.imageCount_pos created
  let motive (reports : List LoopReport) (loop : FrameLoop MemoryDevice) : Prop :=
    loop.Agrees ∧
      (loop.device.Unrefused → .failed (.breach .overflow) ∉ reports → loop.Follows)
  have step : ∀ call ∈ calls, ∀ reports loop, motive reports loop →
      motive (reports ++ [(call.run loop).1]) (call.run loop).2 := by
    rintro call member reports loop ⟨agrees, follows⟩
    refine ⟨agrees.run call, fun unrefused roomy => ?_⟩
    rw [List.mem_append, List.mem_singleton, not_or] at roomy
    have before := follows (unrefused.of_prefix (agrees.calls_grown call)) roomy.1
    have running : call ≠ .shutdown := fun same => running (same ▸ member)
    exact before.run agrees running unrefused (Ne.symm roomy.2)
  obtain ⟨agrees, follows⟩ : motive reports after :=
    replay_keeps step ⟨started, fun _ _ => follows_of_created created⟩ replayed
  have window : after.windowExtent = lastReported settings.window calls := by
    have known := started.windowExtent_replay calls
    rw [replayed] at known
    rw [known]
    congr 1
    cases created <;> rfl
  refine ⟨?_, ?_, ?_⟩
  · obtain ⟨standing, holds⟩ := follows unrefused roomy
    rw [window] at holds
    exact ⟨standing, holds, fun other others => others.unique holds⟩
  · intro burst extent moment sized willing fits
    exact agrees.burst_resized burst moment sized willing fits
  · intro burst extent rest empty sizeless
    exact agrees.burst_dormant burst empty sizeless

/-- The window changes its size twice between two turns, and the surface is out of date at once. -/
theorem converges_of_burst :
    ∃ start reports after,
      create {} {} ⟨2, 2⟩ {} (DeviceSettings.device { window := ⟨4, 3⟩, outOfDateOn := [1, 2] }) =
          .ok () start ∧
        replay
            [.turn ⟨0, History.create .origin ⟨2, 2⟩ (by decide), .identity⟩, .resize ⟨0, 3⟩,
              .resize ⟨5, 5⟩, .turn ⟨0, History.create .origin ⟨2, 2⟩ (by decide), .identity⟩]
            start = (reports, after) ∧
        after.device.surfaces = [⟨4, 3⟩, ⟨5, 5⟩, ⟨5, 5⟩] ∧
        (∃! standing, Holds ⟨5, 5⟩ after.life standing) ∧
        Screen.Resized ⟨6, 2⟩ 2 after.toScreen
          (replay [.resize ⟨7, 1⟩, .resize ⟨6, 2⟩,
            .turn ⟨0, History.create .origin ⟨2, 2⟩ (by decide), .identity⟩] after).2.toScreen := by
  have created : create {} {} ⟨2, 2⟩ {}
      (DeviceSettings.device { window := ⟨4, 3⟩, outOfDateOn := [1, 2] }) =
        .ok () (leftBy (create {} {} ⟨2, 2⟩ {}
          (DeviceSettings.device { window := ⟨4, 3⟩, outOfDateOn := [1, 2] }))) := rfl
  let moment : Moment := ⟨0, History.create .origin ⟨2, 2⟩ (by decide), .identity⟩
  let calls : List LoopCall := [.turn moment, .resize ⟨0, 3⟩, .resize ⟨5, 5⟩, .turn moment]
  let first := leftBy (create {} {} ⟨2, 2⟩ {}
    (DeviceSettings.device { window := ⟨4, 3⟩, outOfDateOn := [1, 2] }))
  have roomy : .failed (.breach .overflow) ∉ (replay calls first).1 := by decide +kernel
  have unrefused : (replay calls first).2.device.Unrefused := by
    unfold MemoryDevice.Unrefused
    decide +kernel
  have device : (replay calls first).2.device.surfaces = [⟨4, 3⟩, ⟨5, 5⟩, ⟨5, 5⟩] ∧
      (replay calls first).2.device.failingBuilds = 0 ∧
      (replay calls first).2.device.imageCount < Word.storageLimit := by
    decide +kernel
  have outdated : Outdated (replay calls first).2
      (replay [.resize ⟨7, 1⟩, .resize ⟨6, 2⟩, .turn moment] (replay calls first).2).2 := by
    decide +kernel
  generalize replayed : replay calls first = result at roomy unrefused device outdated
  obtain ⟨reports, after⟩ := result
  obtain ⟨standing, resized, _⟩ :=
    converges_of_replay created replayed (by simp [calls]) unrefused roomy
  have twice := resized [⟨7, 1⟩] ⟨6, 2⟩ moment (by decide) device.2.1 device.2.2
  simp only [List.map_cons, List.map_nil, List.cons_append, List.nil_append,
    if_pos outdated] at twice
  exact ⟨first, reports, after, created, replayed, device.1, standing, twice⟩

end FrameLoop

end Waterfall

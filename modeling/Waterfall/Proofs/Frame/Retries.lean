import Waterfall.Proofs.Frame.Guards
import Waterfall.Proofs.Frame.Record

/-! # Retries of a rebuild

A rebuild releases what is live and then asks for surfaces until one is granted, first at the size
that it was told and then at the last good one, but only a limited number of times. How often it
asks, at which sizes and how it ends follows from the number of surfaces that will be refused.
-/

namespace Waterfall

namespace CallRecord

/-- The size of the surface that a call asks for, and whether it was refused. -/
def request? (record : CallRecord) : Option (Extent × Bool) :=
  match record.call with
  | .create (.surface extent) => some (extent, record.refused)
  | _ => none

/-- Whether a call releases a resource. -/
def discards (record : CallRecord) : Bool :=
  match record.call with
  | .discard _ => true
  | _ => false

/-- The surfaces that were asked for, in order. -/
def requests (calls : List CallRecord) : List (Extent × Bool) := calls.filterMap request?

variable {calls added : List CallRecord}

theorem requests_append : requests (calls ++ added) = requests calls ++ requests added :=
  List.filterMap_append

theorem requests_of_keeps (keeps : ∀ record ∈ calls, record.keepsResources = true) :
    requests calls = [] := by
  refine List.filterMap_eq_nil_iff.mpr fun record member => ?_
  have kept := keeps record member
  obtain ⟨call, refused⟩ := record
  cases call with
  | create creation => cases kept
  | _ => rfl

theorem not_discards_of_keeps (keeps : ∀ record ∈ calls, record.keepsResources = true) :
    ∀ record ∈ calls, record.discards = false := by
  intro record member
  have kept := keeps record member
  obtain ⟨call, refused⟩ := record
  cases call with
  | discard kind => cases kept
  | _ => rfl

end CallRecord

namespace Screen

open CallRecord (liveAfter requests)

variable {screen before after : Screen MemoryDevice} {extent : Extent} {affected : Option Nat}

/-- The first `count` requests for surfaces, all of them refused. -/
def refusedRequests (sizes : Nat → Extent) (count : Nat) : List (Extent × Bool) :=
  (List.range count).map fun attempt => (sizes attempt, true)

theorem requests_refusals (sizes : Nat → Extent) (count : Nat) :
    requests (refusals sizes count) = refusedRequests sizes count := by
  have all_request : CallRecord.request? ∘ (fun attempt => .refusedSurface (sizes attempt)) =
      some ∘ fun attempt => (sizes attempt, true) := rfl
  rw [requests, refusals, List.filterMap_map, all_request, List.filterMap_eq_map, refusedRequests]

theorem requests_buildCalls (extent : Extent) (scene : Scene) (imageCount : Nat) :
    requests (SurfaceResources.buildCalls extent scene imageCount) = [(extent, false)] := rfl

theorem not_discards_refusals (sizes : Nat → Extent) (count : Nat) :
    ∀ record ∈ refusals sizes count, record.discards = false := by
  intro record member
  obtain ⟨attempt, _, rfl⟩ := List.mem_map.mp member
  rfl

theorem not_discards_buildCalls (extent : Extent) (scene : Scene) (imageCount : Nat) :
    ∀ record ∈ SurfaceResources.buildCalls extent scene imageCount, record.discards = false := by
  intro record member
  obtain created | finished := List.mem_append.mp member
  · obtain ⟨creation, _, rfl⟩ := List.mem_map.mp created
    rfl
  · rw [List.mem_singleton.mp finished]
    rfl

/-- What a rebuild asked of the device: it released what was live, and then it asked for surfaces
and released nothing more. -/
structure AskedFor (asked : List (Extent × Bool)) (before after : Screen MemoryDevice) : Prop where
  released : ∀ kind, liveAfter kind (before.device.calls ++ clearCalls before.life) = 0
  calls : ∃ rest, after.device.calls = before.device.calls ++ clearCalls before.life ++ rest ∧
    requests rest = asked ∧ ∀ record ∈ rest, record.discards = false
  failingBuilds : after.device.failingBuilds =
    before.device.failingBuilds - asked.countP (·.2)

/-- New guards are signaled, and all other guards are as they were. -/
structure Refreshed (new : Nat → Prop) (before after : Screen MemoryDevice) : Prop where
  fresh : ∀ (index : Nat) (slot : FrameSlot), new index → after.slots[index]? = some slot →
    before.device.fences.length < slot.inFlight ∧ after.device.isSignaled slot.inFlight = true
  kept : ∀ index : Nat, ¬new index → after.slots[index]? = before.slots[index]?
  signals : ∀ fence, before.device.Issued fence →
    after.device.isSignaled fence = before.device.isSignaled fence

/-- A rebuild without a size asks for nothing; only the guard of the affected slot is new. -/
structure Deferred (affected : Option Nat) (before after : Screen MemoryDevice) : Prop where
  asked : AskedFor [] before after
  life : after.life =
    { before.life with resources := none, state := .recreating, pending := none }
  length_slots : after.slots.length = before.slots.length
  slots : Refreshed (affected = some ·) before after

/-- A rebuild that was refused `refused` surfaces and then granted one. With another number of
images all guards are new, else only that of the affected slot. -/
structure Rebuilt (extent : Extent) (affected : Option Nat) (refused : Nat)
    (before after : Screen MemoryDevice) : Prop where
  asked : AskedFor
    (refusedRequests (attemptSize before.life extent) refused ++
      [(attemptSize before.life extent refused, false)]) before after
  life : after.life =
    { before.life with
      resources := some
        { extent := attemptSize before.life extent refused
          scene := before.life.scene
          swapchain := { imageCount := before.device.imageCount } }
      state := .valid
      pending := none
      lastGood := some (attemptSize before.life extent refused)
      recreations := before.life.recreations + 1 }
  length_slots : after.slots.length = before.device.imageCount
  slots : Refreshed
    (fun index => before.slots.length ≠ before.device.imageCount ∨ affected = some index)
    before after

/-- A rebuild that was refused a surface `limit` times, the last time for this cause. -/
structure GivenUp (extent : Extent) (limit : Nat) (cause : Failure)
    (before after : Screen MemoryDevice) : Prop where
  asked : AskedFor (refusedRequests (attemptSize before.life extent) limit) before after
  life : after.life =
    { before.life with resources := none, state := .recreating, pending := none }
  slots : after.slots = before.slots
  fences : after.device.fences = before.device.fences
  last : ∃ device : MemoryDevice,
    device.calls = before.device.calls ++ clearCalls before.life ++
      refusals (attemptSize before.life extent) (limit - 1) ∧
    SurfaceResources.build (attemptSize before.life extent (limit - 1)) before.life.scene device =
      .error (.failure cause) after.device

/-- Only the guards and the fences matter. -/
theorem Refreshed.of_same {new : Nat → Prop} {middle next : Screen MemoryDevice}
    (refreshed : Refreshed new middle next) (slots : middle.slots = before.slots)
    (fences : middle.device.fences = before.device.fences) (next_slots : after.slots = next.slots)
    (next_fences : after.device.fences = next.device.fences) : Refreshed new before after := by
  have signaled (fence : FenceId) :
      after.device.isSignaled fence = next.device.isSignaled fence := by
    rw [MemoryDevice.isSignaled, next_fences, MemoryDevice.isSignaled]
  refine ⟨?_, ?_, ?_⟩
  · intro index slot renewed found
    rw [next_slots] at found
    rw [signaled, ← fences]
    exact refreshed.fresh index slot renewed found
  · intro index old
    rw [next_slots, ← slots]
    exact refreshed.kept index old
  · intro fence issued
    have same : middle.device.isSignaled fence = before.device.isSignaled fence := by
      rw [MemoryDevice.isSignaled, fences, MemoryDevice.isSignaled]
    rw [signaled, ← same]
    refine refreshed.signals fence ?_
    rwa [MemoryDevice.Issued, fences]

theorem Refreshed.of_iff {new renewed : Nat → Prop} (refreshed : Refreshed renewed before after)
    (same : ∀ index, new index ↔ renewed index) : Refreshed new before after := by
  obtain rfl : new = renewed := funext fun index => propext (same index)
  exact refreshed

theorem refreshed_guarded (index : Nat) (screen : Screen MemoryDevice) :
    Refreshed (some index = some ·) screen (screen.guarded index) := by
  have idle : screen.device.IdleTo (screen.guarded index).device :=
    (preparesTo_patched (some index) screen).idleTo
  refine ⟨?_, ?_, fun fence => idle.isSignaled_eq⟩
  · rintro other slot same found
    obtain ⟨_, rfl⟩ | ⟨different, _⟩ := slot_cases_of_guarded found
    · refine ⟨Nat.lt_succ_self _, idle.isSignaled_new (Nat.lt_succ_self _) ⟨Nat.succ_pos _, ?_⟩⟩
      simp [Screen.guarded]
    · exact absurd (Option.some.inj same).symm different
  · intro other different
    exact List.getElem?_set_ne fun same => different (congrArg some same)

theorem refreshed_patched (affected : Option Nat) (screen : Screen MemoryDevice) :
    Refreshed (affected = some ·) screen (screen.patched affected) := by
  cases affected with
  | none => exact ⟨fun _ _ => nofun, fun _ _ => rfl, fun _ _ => rfl⟩
  | some index => exact refreshed_guarded index screen

theorem refreshed_opened (count : Nat) (screen : Screen MemoryDevice) :
    Refreshed (fun _ => True) screen (screen.opened count) := by
  have idle : screen.device.IdleTo (screen.opened count).device :=
    (MemoryDevice.preparesTo_prepare (MemoryDevice.idle_slotCalls _) _ 0).idleTo
  refine ⟨?_, fun _ old => absurd trivial old, fun fence => idle.isSignaled_eq⟩
  intro index slot _ found
  obtain ⟨inside, rfl⟩ := MemoryDevice.slot_of_newSlots found
  have new : screen.device.fences.length < screen.device.fences.length + 1 + index := by omega
  refine ⟨new, idle.isSignaled_new new ⟨Nat.zero_lt_of_lt new, ?_⟩⟩
  have fences : (screen.opened count).device.fences.length =
      screen.device.fences.length + max count 1 := by
    simp [Screen.opened]
  dsimp only
  omega

/-- Fitting the slots to another number of images makes all of them new. -/
theorem refreshed_fitted (imageCount : Nat) (affected : Option Nat) (screen : Screen MemoryDevice) :
    Refreshed (fun index => screen.slots.length ≠ imageCount ∨ affected = some index) screen
      (screen.fitted imageCount affected) := by
  rw [fitted]
  split
  · rename_i changed
    have different : screen.slots.length ≠ imageCount := Ne.symm changed
    refine (refreshed_opened imageCount screen).of_iff fun index => ?_
    simp [different]
  · rename_i same
    have kept : screen.slots.length = imageCount := (Decidable.not_not.mp same).symm
    refine (refreshed_patched affected screen).of_iff fun index => ?_
    simp [kept]

/-- Giving a slot a new guard only adds a fence. -/
theorem calls_patched (affected : Option Nat) (screen : Screen MemoryDevice) :
    ∃ added, (screen.patched affected).device.calls = screen.device.calls ++ added ∧
      ∀ record ∈ added, record.keepsResources = true := by
  cases affected with
  | none => exact ⟨[], (List.append_nil _).symm, nofun⟩
  | some index =>
    refine ⟨[.accepted (.createFence true)], rfl, ?_⟩
    simp [CallRecord.keepsResources, CallRecord.accepted]

/-- Fitting the slots creates and releases no resource of the surface. -/
theorem calls_fitted (imageCount : Nat) (affected : Option Nat) (screen : Screen MemoryDevice) :
    ∃ added, (screen.fitted imageCount affected).device.calls = screen.device.calls ++ added ∧
      ∀ record ∈ added, record.keepsResources = true := by
  rw [fitted]
  split
  · exact ⟨_, rfl, keeps_slotCalls⟩
  · exact calls_patched affected screen

@[simp] theorem failingBuilds_patched (affected : Option Nat) (screen : Screen MemoryDevice) :
    (screen.patched affected).device.failingBuilds = screen.device.failingBuilds := by
  cases affected <;> rfl

@[simp] theorem failingBuilds_fitted (imageCount : Nat) (affected : Option Nat)
    (screen : Screen MemoryDevice) :
    (screen.fitted imageCount affected).device.failingBuilds = screen.device.failingBuilds := by
  rw [fitted]
  split
  · rfl
  · exact failingBuilds_patched affected screen

theorem countP_refusedRequests (sizes : Nat → Extent) (count : Nat) :
    (refusedRequests sizes count).countP (·.2) = count := by
  rw [refusedRequests, List.countP_map]
  exact (List.countP_eq_length.mpr fun _ _ => rfl).trans List.length_range

/-- Without a size nothing is built. -/
theorem recreate_of_empty (recorded : screen.Recorded)
    (affected_lt : ∀ index ∈ affected, index < screen.slots.length)
    (empty : extent.isEmpty = true) :
    ∃ next, recreate extent affected screen = .ok .recreating next ∧
      Deferred affected screen next := by
  have ended := recreate_end extent screen affected_lt
  generalize recreate extent affected screen = result at ended ⊢
  cases ended with
  | deferred notices _ =>
    obtain ⟨added, calls, keeps⟩ := calls_patched affected screen.cleared
    refine ⟨_, rfl, ?_, life_patched affected screen.cleared,
      length_slots_patched affected screen.cleared, ?_⟩
    · refine ⟨recorded.cleared.live, ⟨added, calls, CallRecord.requests_of_keeps keeps, ?_⟩, ?_⟩
      · exact CallRecord.not_discards_of_keeps keeps
      · exact failingBuilds_patched affected screen.cleared
    · have refreshed := refreshed_patched affected screen.cleared
      exact refreshed.of_same rfl (List.append_nil _) rfl rfl
  | rebuilt notices sized enough fits => cases sized.symm.trans empty
  | exhausted notices sized few => cases sized.symm.trans empty
  | oversized notices sized enough unfit => cases sized.symm.trans empty

/-- A rebuild to which fewer surfaces are refused than it may ask for succeeds, provided that its
images can be stored. -/
theorem recreate_of_enough (recorded : screen.Recorded) (images : 0 < screen.device.imageCount)
    (affected_lt : ∀ index ∈ affected, index < screen.slots.length)
    (sized : extent.isEmpty = false)
    (enough : screen.device.failingBuilds < max screen.life.maxAttempts 1) :
    (∃ next, recreate extent affected screen = .ok .valid next ∧
      Rebuilt extent affected screen.device.failingBuilds screen next) ∨
    (Word.storageLimit ≤ screen.device.imageCount ∧
      ∃ next, recreate extent affected screen = .error (.breach .overflow) next) := by
  have ended := recreate_end extent screen affected_lt
  generalize recreate extent affected screen = result at ended ⊢
  cases ended with
  | deferred notices empty => cases empty.symm.trans sized
  | rebuilt notices _ _ fits =>
    left
    let sizes := attemptSize screen.life extent
    let failing := screen.device.failingBuilds
    let built := screen.cleared.installed sizes
    obtain ⟨added, calls, keeps⟩ := calls_fitted screen.device.imageCount affected built
    let rest := refusals sizes failing ++
      SurfaceResources.buildCalls (sizes failing) screen.life.scene screen.device.imageCount
    refine ⟨_, rfl, ⟨recorded.cleared.live, ⟨rest ++ added, ?_, ?_, ?_⟩, ?_⟩, ?_, ?_, ?_⟩
    · exact calls.trans (List.append_assoc _ _ _)
    · rw [CallRecord.requests_append, CallRecord.requests_of_keeps keeps, List.append_nil,
        CallRecord.requests_append, requests_refusals, requests_buildCalls]
    · intro record member
      obtain member | member := List.mem_append.mp member
      · obtain member | member := List.mem_append.mp member
        · exact not_discards_refusals _ _ record member
        · exact not_discards_buildCalls _ _ _ record member
      · exact CallRecord.not_discards_of_keeps keeps record member
    · refine (failingBuilds_fitted _ _ built).trans ?_
      rw [List.countP_append, countP_refusedRequests]
      rfl
    · exact life_fitted _ _ built
    · exact length_slots_fitted _ _ built images
    · have refreshed := refreshed_fitted screen.device.imageCount affected built
      refine refreshed.of_same rfl ?_ rfl rfl
      simp [built, installed, cleared]
  | exhausted notices _ few => exact absurd enough (Nat.not_lt.mpr few)
  | oversized notices _ _ unfit => exact .inr ⟨unfit, _, rfl⟩

/-- A rebuild to which as many surfaces are refused as it may ask for gives up. -/
theorem recreate_of_few (recorded : screen.Recorded)
    (affected_lt : ∀ index ∈ affected, index < screen.slots.length)
    (sized : extent.isEmpty = false)
    (few : max screen.life.maxAttempts 1 ≤ screen.device.failingBuilds) :
    ∃ cause next, recreate extent affected screen =
        .error (.failure (.recreateExhausted (max screen.life.maxAttempts 1) cause.text)) next ∧
      GivenUp extent (max screen.life.maxAttempts 1) cause screen next := by
  have ended := recreate_end extent screen affected_lt
  generalize recreate extent affected screen = result at ended ⊢
  cases ended with
  | deferred notices empty => cases empty.symm.trans sized
  | rebuilt notices _ enough fits => exact absurd enough (Nat.not_lt.mpr few)
  | exhausted notices _ _ =>
    let sizes := attemptSize screen.life extent
    obtain ⟨limit, limit_eq⟩ : ∃ limit, max screen.life.maxAttempts 1 = limit + 1 :=
      ⟨max screen.life.maxAttempts 1 - 1, by omega⟩
    rw [limit_eq] at few ⊢
    refine ⟨MemoryDevice.refusal, _, rfl, ?_, rfl, rfl, ?_, ?_⟩
    · refine ⟨recorded.cleared.live, ⟨refusals sizes (limit + 1), rfl, requests_refusals _ _,
        not_discards_refusals _ _⟩, ?_⟩
      rw [countP_refusedRequests]
      rfl
    · simp [cleared]
    · -- The device before the last attempt, which refuses one surface more.
      let device := screen.cleared.device.prepare (refusals sizes limit) 0 limit
      have failing : 0 < device.failingBuilds := Nat.sub_pos_of_lt few
      refine ⟨device, rfl, (SurfaceResources.build_of_failing failing).trans ?_⟩
      rw [MemoryDevice.prepare_prepare, refusals, refusals, List.range_succ, List.map_append]
      rfl
  | oversized notices _ enough unfit => exact absurd enough (Nat.not_lt.mpr few)

/-- The limit of attempts is set once. -/
theorem RebuildEnd.maxAttempts_eq {result : EStateM.Result Fault (Screen MemoryDevice) SurfaceState}
    (ended : RebuildEnd extent affected screen result) :
    (leftBy result).life.maxAttempts = screen.life.maxAttempts := by
  cases ended with
  | deferred notices empty => simp [leftBy, cleared]
  | rebuilt notices sized enough fits => simp [leftBy, installed, cleared]
  | exhausted notices sized few => rfl
  | oversized notices sized enough unfit => rfl

/-- The screen on a device that will refuse so many surfaces. -/
def refusing (failing : Nat) (screen : Screen MemoryDevice) : Screen MemoryDevice :=
  { screen with device := { screen.device with failingBuilds := failing } }

end Screen

namespace FrameLoop

variable {loop : FrameLoop MemoryDevice}

theorem maxAttempts_rebuildPending {result : EStateM.Result Fault (FrameLoop MemoryDevice) Unit}
    (ended : PendingEnd loop result) :
    (leftBy result).life.maxAttempts = loop.life.maxAttempts := by
  cases ended with
  | idle unscheduled => rfl
  | rebuilt scheduled ended => exact ended.maxAttempts_eq
  | failed scheduled ended => exact ended.maxAttempts_eq

theorem maxAttempts_asked {moment : Moment} {resources : SurfaceResources} {guard : FenceId}
    {result : EStateM.Result Fault (FrameLoop MemoryDevice) TurnOutcome}
    (ended : AskedEnd moment loop resources guard result) :
    (leftBy result).life.maxAttempts = loop.life.maxAttempts := by
  cases ended with
  | recreated outdated ended => exact ended.maxAttempts_eq
  | recreateFailed outdated ended => exact ended.maxAttempts_eq
  | acquireTimeout current late => rfl
  | uncounted current prompt uncounted => rfl
  | presented notices current prompt counted => rfl

/-- Every call leaves the limit of attempts as it is, also one that fails. -/
theorem maxAttempts_run {limit : Nat} (agrees : loop.Agrees)
    (limited : loop.life.maxAttempts = limit) (call : LoopCall) :
    (call.run loop).2.life.maxAttempts = limit := by
  refine LoopCall.run_keeps (motive := fun loop => loop.life.maxAttempts = limit) ?_ ?_ ?_ ?_ ?_
  · intro moment
    refine agrees.turn_keeps (motive := fun loop => loop.life.maxAttempts = limit) ?_ ?_ ?_
    · intro result ended
      exact (maxAttempts_rebuildPending ended).trans limited
    · intro ready guard limited
      exact limited
    · intro ready resources guard result _ _ ended limited
      exact (maxAttempts_asked ended).trans limited
  · intro extent
    exact limited
  · intro scene
    have ended := selectScene_end scene loop
    generalize selectScene scene loop = result at ended
    cases ended <;> exact limited
  · obtain ⟨notices, ended⟩ := shutdown_eq loop
    rw [ended]
    exact limited
  · intro settings _
    exact limited

theorem maxAttempts_of_created {config : RenderConfig} {camera : Camera} {layout : Layout}
    {overlay : Overlay} {device : MemoryDevice}
    (created : Created config camera layout overlay device loop) :
    loop.life.maxAttempts = max config.maxRecreateAttempts 1 := by
  cases created <;> rfl

/-- The screens that a rebuild may find: between two calls, and within a turn after the rebuild that
was scheduled or after an image was asked for. -/
inductive Rebuilds (loop : FrameLoop MemoryDevice) : Screen MemoryDevice → Prop
  | between : Rebuilds loop loop.toScreen
  | scheduled {ready : FrameLoop MemoryDevice} (rebuilt : loop.rebuildPending = .ok () ready) :
      Rebuilds loop ready.toScreen
  | asked {ready : FrameLoop MemoryDevice} {resources : SurfaceResources} {guard : FenceId}
      (rebuilt : loop.rebuildPending = .ok () ready) (serves : ready.Serves resources guard) :
      Rebuilds loop (ready.asked guard).toScreen

/-- What a loop keeps, a rebuild finds. -/
theorem Rebuilds.finds {screen : Screen MemoryDevice} (rebuilds : loop.Rebuilds screen)
    (agrees : loop.Agrees) (recorded : loop.toScreen.Recorded) :
    0 < screen.device.imageCount ∧ screen.Recorded ∧
      screen.life.maxAttempts = loop.life.maxAttempts := by
  cases rebuilds with
  | between => exact ⟨agrees.screen.images_pos, recorded, rfl⟩
  | scheduled rebuilt =>
    have pending := PendingEnd.of_run rebuilt
    exact ⟨(agrees.rebuildPending pending).screen.images_pos,
      recorded_rebuildPending agrees recorded pending, maxAttempts_rebuildPending pending⟩
  | @asked ready resources guard rebuilt serves =>
    have pending := PendingEnd.of_run rebuilt
    have live : ready.life.resources.isSome = true := by rw [serves.live]; rfl
    refine ⟨(agrees.rebuildPending pending).screen.images_pos, ?_,
      maxAttempts_rebuildPending pending⟩
    refine (recorded_rebuildPending agrees recorded pending).append_draws rfl live live ?_
    simp [CallRecord.keepsResources, CallRecord.accepted]

open Screen (Deferred Rebuilt GivenUp recreate)

/-- Whatever was called before, a rebuild without a size waits, and one with a size asks for
surfaces until one is granted or the attempts are used up, of which there is at least one. The one
breach is a surface with more images than command buffers can be stored. -/
theorem retries_of_replay {config : RenderConfig} {camera : Camera} {layout : Layout}
    {overlay : Overlay} {settings : DeviceSettings} {start after : FrameLoop MemoryDevice}
    {calls : List LoopCall} {reports : List LoopReport} {screen : Screen MemoryDevice}
    (created : create config camera layout overlay settings.device = .ok () start)
    (replayed : replay calls start = (reports, after)) (rebuilds : after.Rebuilds screen)
    (extent : Extent) (affected : Option Nat) (failing : Nat)
    (affected_lt : ∀ index ∈ affected, index < screen.slots.length) :
    (extent.isEmpty = true →
      ∃ next, recreate extent affected (screen.refusing failing) = .ok .recreating next ∧
        Deferred affected (screen.refusing failing) next) ∧
    (extent.isEmpty = false → failing < max 1 config.maxRecreateAttempts →
      (∃ next, recreate extent affected (screen.refusing failing) = .ok .valid next ∧
        Rebuilt extent affected failing (screen.refusing failing) next) ∨
      (Word.storageLimit ≤ screen.device.imageCount ∧
        ∃ next, recreate extent affected (screen.refusing failing) =
          .error (.breach .overflow) next)) ∧
    (extent.isEmpty = false → max 1 config.maxRecreateAttempts ≤ failing →
      ∃ cause next, recreate extent affected (screen.refusing failing) =
          .error (.failure (.recreateExhausted (max 1 config.maxRecreateAttempts) cause.text))
            next ∧
        GivenUp extent (max 1 config.maxRecreateAttempts) cause (screen.refusing failing)
          next) := by
  have created := created_of_create created
  let limit := max config.maxRecreateAttempts 1
  let motive (_ : List LoopReport) (loop : FrameLoop MemoryDevice) : Prop :=
    loop.Agrees ∧ loop.toScreen.Recorded ∧ loop.life.maxAttempts = limit
  have started : motive [] start :=
    ⟨agrees_of_created settings.imageCount_pos created, recorded_of_created created,
      maxAttempts_of_created created⟩
  have step : ∀ call ∈ calls, ∀ reports loop, motive reports loop →
      motive (reports ++ [(call.run loop).1]) (call.run loop).2 := by
    rintro call _ reports loop ⟨agrees, recorded, limited⟩
    exact ⟨agrees.run call, recorded_run agrees recorded call, maxAttempts_run agrees limited call⟩
  obtain ⟨agrees, recorded, limited⟩ : motive reports after := replay_keeps step started replayed
  obtain ⟨images, recorded, kept⟩ := rebuilds.finds agrees recorded
  have refusing_recorded : (screen.refusing failing).Recorded :=
    ⟨recorded.live, recorded.drawn, recorded.sized⟩
  have limit_eq : max 1 config.maxRecreateAttempts =
      max (screen.refusing failing).life.maxAttempts 1 := by
    have unchanged : (screen.refusing failing).life.maxAttempts = limit := kept.trans limited
    omega
  rw [limit_eq]
  refine ⟨?_, ?_, ?_⟩
  · exact Screen.recreate_of_empty refusing_recorded affected_lt
  · exact Screen.recreate_of_enough refusing_recorded images affected_lt
  · exact Screen.recreate_of_few refusing_recorded affected_lt

/-- Two refused surfaces of three attempts: the third one is granted at the size of the first
surface, and the affected slot has a new guard. -/
theorem retries_of_two_refusals :
    ∃ start reports after next,
      create {} {} ⟨2, 2⟩ {} (DeviceSettings.device { window := ⟨4, 3⟩ }) = .ok () start ∧
        replay [.turn ⟨0, History.create .origin ⟨2, 2⟩ (by decide), .identity⟩, .resize ⟨7, 5⟩]
            start = (reports, after) ∧
        reports = [.turned (.presented 0 0), .done] ∧
        recreate ⟨7, 5⟩ (some 1) (after.toScreen.refusing 2) = .ok .valid next ∧
        next.life.extent? = some ⟨4, 3⟩ ∧ next.life.recreations = 1 ∧ next.life.pending = none ∧
        (∃ rest, next.device.calls =
            after.device.calls ++ Screen.clearCalls after.life ++ rest ∧
          CallRecord.requests rest = [(⟨7, 5⟩, true), (⟨4, 3⟩, true), (⟨4, 3⟩, false)]) ∧
        next.slots[0]? = after.slots[0]? ∧ ∀ slot, next.slots[1]? = some slot →
          after.device.fences.length < slot.inFlight := by
  have created : create {} {} ⟨2, 2⟩ {} (DeviceSettings.device { window := ⟨4, 3⟩ }) =
      .ok () (leftBy (create {} {} ⟨2, 2⟩ {}
        (DeviceSettings.device { window := ⟨4, 3⟩ }))) := rfl
  have retries := fun calls => retries_of_replay created (Prod.eta (replay calls _)).symm .between
    ⟨7, 5⟩ (some 1) 2
  let moment : Moment := ⟨0, History.create .origin ⟨2, 2⟩ (by decide), .identity⟩
  obtain ⟨next, ran, rebuilt⟩ | ⟨unfit, _⟩ :=
    (retries [.turn moment, .resize ⟨7, 5⟩] (by decide +kernel)).2.1 rfl (by decide)
  · refine ⟨_, _, _, next, created, (Prod.eta _).symm, ?_, ran, ?_, ?_, ?_, ?_, ?_, ?_⟩
    · decide +kernel
    · rw [SurfaceLifecycle.extent?, rebuilt.life]
      decide +kernel
    · rw [rebuilt.life]
      decide +kernel
    · rw [rebuilt.life]
    · obtain ⟨rest, calls, requested, _⟩ := rebuilt.asked.calls
      refine ⟨rest, calls, requested.trans ?_⟩
      decide +kernel
    · exact rebuilt.slots.kept 0 (by decide +kernel)
    · intro slot found
      exact (rebuilt.slots.fresh 1 slot (.inr rfl) found).1
  · exact absurd unfit (by decide +kernel)

end FrameLoop

end Waterfall

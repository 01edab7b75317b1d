import Waterfall.Proofs.Frame.Replay
import Waterfall.Proofs.Frame.Turn

/-! # The surface, its state and the frame slots agree

Between two calls the loop is in one of two situations: there is a surface, it may be drawn to and
has one frame slot for each image, or there is none and frames are skipped. Every call keeps that,
also one that fails half-way, so a turn that gets past its first test always finds resources, a
guard and an image.
-/

namespace Waterfall

namespace Screen

/-- A surface is there exactly if frames may be acquired, and everything fits to it. -/
structure Agrees (screen : Screen MemoryDevice) : Prop where
  images_pos : 0 < screen.device.imageCount
  slots_pos : 0 < screen.slots.length
  valid_iff : screen.life.isValid = screen.life.resources.isSome
  lastGood_sized : ∀ extent ∈ screen.life.lastGood, extent.isEmpty = false
  extent_eq : ∀ resources ∈ screen.life.resources, screen.life.lastGood = some resources.extent
  length_slots : ∀ resources ∈ screen.life.resources, screen.slots.length = resources.imageCount
  image_lt : ∀ resources ∈ screen.life.resources,
    resources.swapchain.nextImage < resources.imageCount

variable {screen : Screen MemoryDevice} {extent : Extent} {affected : Option Nat}

/-- What else the screen holds does not matter. -/
theorem Agrees.of_same {after : Screen MemoryDevice} (agrees : screen.Agrees)
    (images_pos : 0 < after.device.imageCount) (slots : after.slots = screen.slots)
    (state : after.life.state = screen.life.state)
    (lastGood : after.life.lastGood = screen.life.lastGood)
    (resources : after.life.resources = screen.life.resources) : after.Agrees where
  images_pos := images_pos
  slots_pos := slots ▸ agrees.slots_pos
  valid_iff := by
    rw [SurfaceLifecycle.isValid, state, resources]
    exact agrees.valid_iff
  lastGood_sized := lastGood ▸ agrees.lastGood_sized
  extent_eq := by
    rw [lastGood, resources]
    exact agrees.extent_eq
  length_slots := by
    rw [slots, resources]
    exact agrees.length_slots
  image_lt := resources ▸ agrees.image_lt

/-- A screen without a surface agrees with itself once it awaits one. -/
theorem Agrees.of_none {after : Screen MemoryDevice} (agrees : screen.Agrees)
    (images : after.device.imageCount = screen.device.imageCount)
    (slots : after.slots.length = screen.slots.length)
    (lastGood : after.life.lastGood = screen.life.lastGood)
    (resources : after.life.resources = none) (state : after.life.state = .recreating) :
    after.Agrees where
  images_pos := images ▸ agrees.images_pos
  slots_pos := slots ▸ agrees.slots_pos
  valid_iff := by simp [SurfaceLifecycle.isValid, resources, state]
  lastGood_sized := lastGood ▸ agrees.lastGood_sized
  extent_eq := by simp [resources]
  length_slots := by simp [resources]
  image_lt := by simp [resources]

/-- Every size that an attempt is made at is a size. -/
theorem Agrees.attemptSize_sized (agrees : screen.Agrees) (sized : extent.isEmpty = false)
    (attempt : Nat) : (attemptSize screen.life extent attempt).isEmpty = false := by
  cases attempt with
  | zero => exact sized
  | succ attempt =>
    cases good : screen.life.lastGood with
    | none => simpa [attemptSize, good] using sized
    | some last => simpa [attemptSize, good] using agrees.lastGood_sized last good

/-- A rebuild keeps the agreement, however it ends. -/
theorem Agrees.rebuild {result : EStateM.Result Fault (Screen MemoryDevice) SurfaceState}
    (agrees : screen.Agrees) (ended : RebuildEnd extent affected screen result) :
    (leftBy result).Agrees := by
  have images := ended.preparesTo.imageCount
  cases ended with
  | deferred notices empty =>
    refine agrees.of_none images ?_ ?_ ?_ ?_
    · exact length_slots_patched affected screen.cleared
    · simp [leftBy, cleared]
    · simp [leftBy, cleared]
    · simp [leftBy, cleared]
  | rebuilt notices sized enough fits =>
    have slots := length_slots_fitted screen.device.imageCount affected
      (screen.cleared.installed (attemptSize screen.life extent)) agrees.images_pos
    exact {
      images_pos := Nat.lt_of_lt_of_eq agrees.images_pos images.symm
      slots_pos := by simpa [leftBy, slots] using agrees.images_pos
      valid_iff := by simp [leftBy, installed, SurfaceLifecycle.isValid]
      lastGood_sized := by
        simp only [leftBy, life_fitted, installed, Option.mem_some_iff]
        rintro _ rfl
        exact agrees.attemptSize_sized sized _
      extent_eq := by simp [leftBy, installed, SurfaceResources.built]
      length_slots := by
        simp only [leftBy, life_fitted, installed, Option.mem_some_iff]
        rintro _ rfl
        exact slots
      image_lt := by
        simpa [leftBy, installed, SurfaceResources.built, SurfaceResources.imageCount, cleared]
          using agrees.images_pos }
  | exhausted notices sized few => exact agrees.of_none rfl rfl rfl rfl rfl
  | oversized notices sized enough unfit => exact agrees.of_none rfl rfl rfl rfl rfl

/-- A surface may be used as long as it keeps its size and its number of images. -/
theorem Agrees.of_some {after : Screen MemoryDevice} {resources used : SurfaceResources}
    (agrees : screen.Agrees) (live : screen.life.resources = some resources)
    (images : after.device.imageCount = screen.device.imageCount)
    (slots : after.slots = screen.slots) (state : after.life.state = screen.life.state)
    (lastGood : after.life.lastGood = screen.life.lastGood)
    (now : after.life.resources = some used) (extent : used.extent = resources.extent)
    (count : used.imageCount = resources.imageCount)
    (image_lt : used.swapchain.nextImage < used.imageCount) : after.Agrees where
  images_pos := images ▸ agrees.images_pos
  slots_pos := slots ▸ agrees.slots_pos
  valid_iff := by
    have valid := agrees.valid_iff
    rw [SurfaceLifecycle.isValid, live] at valid
    rw [SurfaceLifecycle.isValid, state, now]
    exact valid
  lastGood_sized := lastGood ▸ agrees.lastGood_sized
  extent_eq := by
    rw [now, lastGood]
    rintro _ ⟨⟩
    rw [extent]
    exact agrees.extent_eq resources live
  length_slots := by
    rw [now, slots]
    rintro _ ⟨⟩
    rw [count]
    exact agrees.length_slots resources live
  image_lt := by
    rw [now]
    rintro _ ⟨⟩
    exact image_lt

/-- Selecting a scene keeps the agreement. -/
theorem Agrees.rescened (agrees : screen.Agrees) (scene : Scene) :
    (screen.rescened scene).Agrees where
  images_pos := agrees.images_pos
  slots_pos := agrees.slots_pos
  valid_iff := by
    rw [Screen.rescened, Option.isSome_map]
    exact agrees.valid_iff
  lastGood_sized := agrees.lastGood_sized
  extent_eq := by
    rintro _ live
    obtain ⟨resources, present, rfl⟩ := Option.map_eq_some_iff.mp live
    exact agrees.extent_eq resources present
  length_slots := by
    rintro _ live
    obtain ⟨resources, present, rfl⟩ := Option.map_eq_some_iff.mp live
    exact agrees.length_slots resources present
  image_lt := by
    rintro _ live
    obtain ⟨resources, present, rfl⟩ := Option.map_eq_some_iff.mp live
    exact agrees.image_lt resources present

end Screen

namespace FrameLoop

variable {loop : FrameLoop MemoryDevice} {resources : SurfaceResources} {guard : FenceId}
  {moment : Moment}

/-- The screen agrees with itself, and the current slot is one of its slots. -/
structure Agrees (loop : FrameLoop MemoryDevice) : Prop where
  screen : loop.toScreen.Agrees
  slot_lt : loop.slot < loop.slots.length

/-- The loop goes on to a slot that there is. -/
theorem Agrees.of_screen {screen : Screen MemoryDevice} {frame slot : Nat}
    (agrees : screen.Agrees) :
    FrameLoop.Agrees { loop with toScreen := screen, frame, slot := slot % screen.slots.length } :=
  ⟨agrees, Nat.mod_lt _ agrees.slots_pos⟩

theorem Agrees.rebuildPending {result : EStateM.Result Fault (FrameLoop MemoryDevice) Unit}
    (agrees : loop.Agrees) (ended : PendingEnd loop result) : (leftBy result).Agrees := by
  cases ended with
  | idle unscheduled => exact agrees
  | rebuilt scheduled ended => exact .of_screen (agrees.screen.rebuild ended)
  | failed scheduled ended =>
    refine ⟨agrees.screen.rebuild ended, ?_⟩
    have slots := ended.slots_of_error
    simpa [leftBy, slots] using agrees.slot_lt

/-- A loop that may draw has all that a frame needs. -/
theorem Agrees.serves (agrees : loop.Agrees) (valid : loop.life.isValid = true) :
    ∃ resources guard, loop.Serves resources guard := by
  have live : loop.life.resources.isSome = true := agrees.screen.valid_iff ▸ valid
  obtain ⟨resources, live⟩ := Option.isSome_iff_exists.mp live
  refine ⟨resources, (loop.slots.get ⟨loop.slot, agrees.slot_lt⟩).inFlight, ?_, live, ?_, ?_⟩
  · exact eq_of_beq valid
  · exact agrees.screen.image_lt resources live
  · exact List.getElem?_eq_getElem agrees.slot_lt

/-- A turn ends in one of the ways that are possible for a loop that agrees with itself. -/
theorem Agrees.turn_end {result : EStateM.Result Fault (FrameLoop MemoryDevice) TurnOutcome}
    (agrees : loop.Agrees) (ran : loop.turn moment = result) : TurnEnd moment loop result := by
  rw [← ran]
  apply FrameLoop.turn_end
  intro ready rebuilt valid
  exact (agrees.rebuildPending (.of_run rebuilt)).serves valid

/-- Drawing a frame with a live surface keeps the agreement. -/
theorem Agrees.drawn {screen : Screen MemoryDevice} {image : Nat} {uniforms : Uniforms}
    {notices : List Notice} (agrees : loop.toScreen.Agrees)
    (live : loop.life.resources = some resources)
    (ended : screen =
      { (loop.drawn moment resources uniforms image guard).toScreen with notices }) :
    screen.Agrees := by
  subst ended
  have now : (loop.drawn moment resources uniforms image guard).life.resources =
      some ((resources.recorded image).submitted image) := rfl
  exact agrees.of_some live rfl rfl rfl rfl now rfl rfl (agrees.image_lt resources live)

/-- Asking for an image changes nothing but the device. -/
theorem Agrees.asked_screen (agrees : loop.Agrees) (serves : loop.Serves resources guard) :
    (loop.asked guard).toScreen.Agrees :=
  agrees.screen.of_some serves.live rfl rfl rfl rfl serves.live rfl rfl serves.image_lt

theorem Agrees.asked {result : EStateM.Result Fault (FrameLoop MemoryDevice) TurnOutcome}
    (agrees : loop.Agrees) (serves : loop.Serves resources guard)
    (ended : AskedEnd moment loop resources guard result) : (leftBy result).Agrees := by
  have asked := agrees.asked_screen serves
  have next_lt : resources.handedOut.swapchain.nextImage < resources.imageCount :=
    Nat.mod_lt _ (Nat.zero_lt_of_lt serves.image_lt)
  have now : (loop.supplied guard resources).life.resources = some resources.handedOut := rfl
  have supplied : (loop.supplied guard resources).toScreen.Agrees :=
    agrees.screen.of_some serves.live rfl rfl rfl rfl now rfl rfl next_lt
  cases ended with
  | recreated outdated ended => exact .of_screen (asked.rebuild ended)
  | recreateFailed outdated ended =>
    refine ⟨asked.rebuild ended, ?_⟩
    have slots := ended.slots_of_error
    rw [leftBy, slots]
    exact agrees.slot_lt
  | acquireTimeout current late => exact ⟨asked, agrees.slot_lt⟩
  | uncounted current prompt uncounted =>
    exact ⟨supplied.of_some now rfl rfl rfl rfl now rfl rfl next_lt, agrees.slot_lt⟩
  | presented notices current prompt counted => exact .of_screen (Agrees.drawn supplied now rfl)

/-- What the rebuild at its beginning, its wait and all that follows keep, a turn keeps. -/
theorem Agrees.turn_keeps {motive : FrameLoop MemoryDevice → Prop} (agrees : loop.Agrees)
    (rebuild : ∀ result, PendingEnd loop result → motive (leftBy result))
    (wait : ∀ ready guard, motive ready →
      motive { ready with device := ready.device.awaited guard ready.guardTimeout })
    (ask : ∀ ready resources guard result, ready.Agrees → ready.Serves resources guard →
      AskedEnd moment ready resources guard result → motive ready → motive (leftBy result)) :
    motive (leftBy (loop.turn moment)) := by
  generalize ran : loop.turn moment = result
  cases agrees.turn_end ran with
  | rebuildFailed failed =>
    have pending := PendingEnd.of_run failed
    exact rebuild _ pending
  | skipped rebuilt invalid =>
    have pending := PendingEnd.of_run rebuilt
    exact rebuild _ pending
  | guardTimeout rebuilt serves unsignaled =>
    have pending := PendingEnd.of_run rebuilt
    exact wait _ _ (rebuild _ pending)
  | asked rebuilt serves signaled ended =>
    have pending := PendingEnd.of_run rebuilt
    exact ask _ _ _ _ (agrees.rebuildPending pending) serves ended (rebuild _ pending)

/-- Every turn keeps the agreement, also one that fails. -/
theorem Agrees.turn (agrees : loop.Agrees) (moment : Moment) :
    (leftBy (loop.turn moment)).Agrees := by
  refine agrees.turn_keeps ?_ ?_ ?_
  · intro result ended
    exact agrees.rebuildPending ended
  · intro ready guard ready_agrees
    exact ⟨ready_agrees.screen.of_same ready_agrees.screen.images_pos rfl rfl rfl rfl,
      ready_agrees.slot_lt⟩
  · intro ready resources guard result ready_agrees serves ended _
    exact ready_agrees.asked serves ended

theorem Agrees.select (agrees : loop.Agrees) (scene : Scene) :
    (leftBy (selectScene scene loop)).Agrees := by
  have images_pos := agrees.screen.images_pos
  have ended := selectScene_end scene loop
  generalize selectScene scene loop = result at ended
  cases ended with
  | same same => exact agrees
  | unnumbered restyled unnumbered =>
    exact ⟨agrees.screen.of_same images_pos rfl rfl rfl rfl, agrees.slot_lt⟩
  | @restyled indices notices restyled generated =>
    have reindexed : Screen.Agrees { loop.toScreen with device := loop.device.reindexed indices } :=
      agrees.screen.of_same images_pos rfl rfl rfl rfl
    exact ⟨(reindexed.rescened scene).of_same images_pos rfl rfl rfl rfl, agrees.slot_lt⟩
  | rescened notices different kept =>
    exact ⟨(agrees.screen.rescened scene).of_same images_pos rfl rfl rfl rfl, agrees.slot_lt⟩

theorem Agrees.shutdown (agrees : loop.Agrees) : (leftBy loop.shutdown).Agrees := by
  obtain ⟨notices, ended⟩ := shutdown_eq loop
  rw [ended]
  exact ⟨agrees.screen.of_none rfl rfl rfl rfl rfl, agrees.slot_lt⟩

/-- A loop that was just created agrees with itself. -/
theorem agrees_of_created {config : RenderConfig} {camera : Camera} {layout : Layout}
    {overlay : Overlay} {device : MemoryDevice} (images_pos : 0 < device.imageCount)
    (created : Created config camera layout overlay device loop) : loop.Agrees := by
  cases created with
  | deferred notices generated empty =>
    have slots_pos : 0 < max (config.framesInFlight + 1) 1 := by omega
    refine ⟨⟨images_pos, ?_, rfl, nofun, nofun, nofun, nofun⟩, ?_⟩
    · rwa [Screen.opened, MemoryDevice.length_newSlots]
    · simp [Screen.opened, unstarted]
  | built notices generated sized ready fits =>
    have one_each : max device.imageCount 1 = device.imageCount := Nat.max_eq_left images_pos
    refine ⟨⟨images_pos, ?_, rfl, ?_, ?_, ?_, ?_⟩, ?_⟩
    · rwa [Screen.opened, MemoryDevice.length_newSlots, one_each]
    · rintro _ ⟨⟩
      exact sized
    · rintro _ ⟨⟩
      rfl
    · rintro _ ⟨⟩
      rw [Screen.opened, MemoryDevice.length_newSlots, one_each]
      rfl
    · rintro _ ⟨⟩
      exact images_pos
    · rwa [Screen.opened, MemoryDevice.length_newSlots, one_each]

/-- Every call keeps the agreement, also one that fails. -/
theorem Agrees.run (agrees : loop.Agrees) (call : LoopCall) : (call.run loop).2.Agrees := by
  refine LoopCall.run_keeps agrees.turn ?_ agrees.select agrees.shutdown ?_
  · intro extent
    exact ⟨agrees.screen.of_same agrees.screen.images_pos rfl rfl rfl rfl, agrees.slot_lt⟩
  · intro settings _
    exact ⟨agrees.screen.of_same settings.imageCount_pos rfl rfl rfl rfl, agrees.slot_lt⟩

end FrameLoop

end Waterfall

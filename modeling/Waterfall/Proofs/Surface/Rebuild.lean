import Waterfall.Proofs.Surface.Build

/-! # Rebuilding a surface on a device in memory

A rebuild tears the surface down, builds it again and fits the frame slots to its images. It has
four ends: there is nothing to build while the window has no size, the surface is rebuilt, or the
attempts end without one. Each end is given with the screen it leaves, up to its notices.
-/

namespace Waterfall

namespace MemoryDevice

/-- The calls that create frame slots. -/
def slotCalls (count : Nat) : List CallRecord :=
  (List.replicate count
    [.accepted .createSemaphore, .accepted .createSemaphore, .accepted (.createFence true)]).flatten

/-- New frame slots; their guards have the next numbers. -/
def newSlots (device : MemoryDevice) (count : Nat) : List FrameSlot :=
  (List.range' (device.fences.length + 1) count).map FrameSlot.mk

variable (device : MemoryDevice)

@[simp] theorem length_newSlots (count : Nat) : (device.newSlots count).length = count := by
  rw [newSlots, List.length_map, List.length_range']

theorem createFence_eq :
    createFence true device =
      .ok (device.fences.length + 1) (device.prepare [.accepted (.createFence true)] 1 0) := by
  change EStateM.Result.ok (device.fences ++ [true]).length _ = _
  rw [List.length_append, List.length_singleton]
  rfl

theorem createSlot_eq :
    Screen.createSlot device =
      .ok ⟨device.fences.length + 1⟩ (device.prepare (slotCalls 1) 1 0) := by
  rw [Screen.createSlot]
  refine (modify_bind _ _ _).trans ((modify_bind _ _ _).trans ?_)
  rw [note_eq_prepare, note_eq_prepare, prepare_prepare]
  refine (bind_of_ok (createFence_eq _)).trans ?_
  rw [pure_apply, prepare_prepare, fences_prepare, List.replicate_zero, List.append_nil]
  rfl

theorem createSlots_eq (count : Nat) :
    Screen.createSlots count device =
      .ok (device.newSlots count) (device.prepare (slotCalls count) count 0) := by
  induction count generalizing device with
  | zero => simp [Screen.createSlots, newSlots, slotCalls]
  | succ count ih =>
    rw [Screen.createSlots, bind_of_ok (createSlot_eq device), bind_of_ok (ih _), pure_apply,
      prepare_prepare, Nat.add_comm 1 count]
    simp [newSlots, slotCalls, List.range'_succ, List.replicate_succ]

/-- The calls that create frame slots create semaphores and signaled fences. -/
theorem mem_slotCalls {count : Nat} {record : CallRecord} (member : record ∈ slotCalls count) :
    record = .accepted .createSemaphore ∨ record = .accepted (.createFence true) := by
  obtain ⟨slot, replicated, member⟩ := List.mem_flatten.mp member
  rw [List.eq_of_mem_replicate replicated] at member
  simp only [List.mem_cons, List.not_mem_nil, or_false] at member
  rcases member with rfl | rfl | rfl
  · exact .inl rfl
  · exact .inl rfl
  · exact .inr rfl

theorem idle_slotCalls (count : Nat) : CallRecord.Idle (slotCalls count) := by
  intro record member
  rcases mem_slotCalls member with rfl | rfl <;> rfl

/-- Calls that prepare a surface and its frame slots lead from one device to another. None of them
draws. -/
def PreparesTo (device after : MemoryDevice) : Prop :=
  ∃ added guards refused, CallRecord.Idle added ∧ after = device.prepare added guards refused

theorem PreparesTo.refl : device.PreparesTo device :=
  ⟨[], 0, 0, CallRecord.idle_nil, (prepare_nil device).symm⟩

variable {device}

theorem preparesTo_prepare {added : List CallRecord} (idle : CallRecord.Idle added)
    (guards refused : Nat) : device.PreparesTo (device.prepare added guards refused) :=
  ⟨added, guards, refused, idle, rfl⟩

theorem PreparesTo.trans {middle after : MemoryDevice} (first : device.PreparesTo middle)
    (second : middle.PreparesTo after) : device.PreparesTo after := by
  obtain ⟨added, guards, refused, idle, rfl⟩ := first
  obtain ⟨more, newGuards, newRefused, more_idle, rfl⟩ := second
  exact ⟨_, _, _, idle.append more_idle, prepare_prepare _ _ _ _ _ _ device⟩

theorem PreparesTo.imageCount {after : MemoryDevice} (prepares : device.PreparesTo after) :
    after.imageCount = device.imageCount := by
  obtain ⟨added, guards, refused, _, rfl⟩ := prepares
  rfl

theorem PreparesTo.outOfDateOn {after : MemoryDevice} (prepares : device.PreparesTo after) :
    after.outOfDateOn = device.outOfDateOn := by
  obtain ⟨added, guards, refused, _, rfl⟩ := prepares
  rfl

/-- Calls that draw nothing lead from one device to another. They may add signaled fences, and
leave all other fences alone. -/
structure IdleTo (device after : MemoryDevice) : Prop where
  calls : ∃ added, CallRecord.Idle added ∧ after.calls = device.calls ++ added
  fences : ∃ guards, after.fences = device.fences ++ List.replicate guards true
  acquires : after.acquires = device.acquires
  presents : after.presents = device.presents

theorem IdleTo.refl (device : MemoryDevice) : device.IdleTo device :=
  ⟨⟨[], CallRecord.idle_nil, (List.append_nil _).symm⟩, ⟨0, (List.append_nil _).symm⟩, rfl, rfl⟩

theorem PreparesTo.idleTo {after : MemoryDevice} (prepares : device.PreparesTo after) :
    device.IdleTo after := by
  obtain ⟨added, guards, refused, idle, rfl⟩ := prepares
  exact ⟨⟨added, idle, rfl⟩, ⟨guards, rfl⟩, rfl, rfl⟩

end MemoryDevice

namespace Screen

/-- The calls that tear the surface down. -/
def clearCalls (life : SurfaceLifecycle) : List CallRecord :=
  .accepted .waitIdle ::
    if life.resources.isSome then
      ResourceKind.teardownOrder.map fun kind => .accepted (.discard kind)
    else []

theorem idle_clearCalls (life : SurfaceLifecycle) : CallRecord.Idle (clearCalls life) := by
  refine .cons rfl ?_
  split
  · exact CallRecord.idle_map _ fun _ => rfl
  · exact CallRecord.idle_nil

/-- The screen without its surface. -/
def cleared (screen : Screen MemoryDevice) : Screen MemoryDevice :=
  { screen with
    device := screen.device.prepare (clearCalls screen.life) 0 0
    life := { screen.life with resources := none, state := .recreating, pending := none } }

/-- The screen with new frame slots. -/
def opened (count : Nat) (screen : Screen MemoryDevice) : Screen MemoryDevice :=
  { screen with
    device := screen.device.prepare (MemoryDevice.slotCalls (max count 1)) (max count 1) 0
    slots := screen.device.newSlots (max count 1) }

/-- The screen with a new guard for one slot. -/
def guarded (index : Nat) (screen : Screen MemoryDevice) : Screen MemoryDevice :=
  { screen with
    device := screen.device.prepare [.accepted (.createFence true)] 1 0
    slots := screen.slots.set index ⟨screen.device.fences.length + 1⟩ }

/-- The screen with a new guard for the slot whose guard was reset, if there is one. -/
def patched (affected : Option Nat) (screen : Screen MemoryDevice) : Screen MemoryDevice :=
  match affected with
  | some index => screen.guarded index
  | none => screen

/-- The screen with its frame slots fitted to a number of images. -/
def fitted (imageCount : Nat) (affected : Option Nat) (screen : Screen MemoryDevice) :
    Screen MemoryDevice :=
  if imageCount ≠ screen.slots.length then screen.opened imageCount else screen.patched affected

/-- The screen with the surface that the first attempt builds that is not refused. -/
def installed (sizes : Nat → Extent) (screen : Screen MemoryDevice) : Screen MemoryDevice :=
  let size := sizes screen.device.failingBuilds
  let calls := refusals sizes screen.device.failingBuilds ++
    SurfaceResources.buildCalls size screen.life.scene screen.device.imageCount
  { screen with
    device := screen.device.prepare calls 0 screen.device.failingBuilds
    life :=
      { screen.life with
        resources := some (SurfaceResources.built size screen.life.scene screen.device.imageCount)
        state := .valid
        lastGood := some size
        recreations := screen.life.recreations + 1 } }

section

variable (imageCount : Nat) (affected : Option Nat) (screen : Screen MemoryDevice)

@[simp] theorem life_patched : (screen.patched affected).life = screen.life := by
  cases affected <;> rfl

@[simp] theorem length_slots_patched :
    (screen.patched affected).slots.length = screen.slots.length := by
  cases affected with
  | none => rfl
  | some index => exact List.length_set

@[simp] theorem life_fitted : (screen.fitted imageCount affected).life = screen.life := by
  rw [fitted]
  split
  · rfl
  · rw [life_patched]

theorem length_slots_fitted (images : 0 < imageCount) :
    (screen.fitted imageCount affected).slots.length = imageCount := by
  rw [fitted]
  split
  · rw [opened, MemoryDevice.length_newSlots, Nat.max_eq_left images]
  · rename_i same
    rw [length_slots_patched, Decidable.not_not.mp same]

/-- Earlier notices do not matter to the fitted slots. -/
theorem fitted_notices (notices reported : List Notice) :
    ({ ({ screen with notices } : Screen MemoryDevice).fitted imageCount affected with
        notices := reported } : Screen MemoryDevice) =
      { screen.fitted imageCount affected with notices := reported } := by
  rw [fitted, fitted]
  split
  · rfl
  · cases affected <;> rfl

end

variable {screen : Screen MemoryDevice} {extent : Extent} {affected : Option Nat}

theorem release_eq (device : MemoryDevice) :
    SurfaceResources.release device =
      device.prepare
        (ResourceKind.teardownOrder.map fun kind => .accepted (.discard kind)) 0 0 := by
  simp only [SurfaceResources.release, ResourceKind.teardownOrder, List.foldl_cons,
    List.foldl_nil, MemoryDevice.discard_eq_prepare, MemoryDevice.prepare_prepare]
  rfl

theorem onDevice_waitIdle (screen : Screen MemoryDevice) :
    onDevice GraphicsDevice.waitIdle screen =
      .ok () { screen with device := screen.device.prepare [.accepted .waitIdle] 0 0 } := by
  refine onDevice_of_ok ?_
  rw [← MemoryDevice.note_eq_prepare]
  rfl

theorem teardown_eq (screen : Screen MemoryDevice) : teardown screen = .ok () screen.cleared := by
  rw [teardown, bind_of_ok (onDevice_waitIdle screen)]
  refine (modify_bind _ _ _).trans ?_
  refine (get_bind _ _).trans ?_
  cases held : screen.life.resources with
  | none => simp [held, cleared, clearCalls]
  | some resources =>
    change EStateM.Result.ok () _ = _
    simp only [cleared, clearCalls, held, release_eq, MemoryDevice.prepare_prepare,
      Option.isSome_some, if_true]
    rfl

theorem openSlots_eq (count : Nat) (screen : Screen MemoryDevice) :
    openSlots count screen = .ok () (screen.opened count) :=
  bind_of_ok (onDevice_of_ok (MemoryDevice.createSlots_eq _ _))

theorem replaceGuard_of_lt {index : Nat} (index_lt : index < screen.slots.length) :
    replaceGuard index screen = .ok () (screen.guarded index) := by
  refine (bind_of_ok (onDevice_of_ok (MemoryDevice.createFence_eq _))).trans ?_
  refine (get_bind _ _).trans ?_
  exact if_pos index_lt ▸ rfl

/-- Fitting the slots, up to the notices before and after. -/
theorem fitSlots_eq (imageCount : Nat) (notices : List Notice)
    (affected_lt : ∀ index ∈ affected, index < screen.slots.length) :
    ∃ reported, fitSlots imageCount affected { screen with notices } =
      .ok () { screen.fitted imageCount affected with notices := reported } := by
  by_cases same : imageCount = screen.slots.length
  · refine ⟨notices, ?_⟩
    unfold fitSlots
    refine (get_bind _ _).trans ?_
    rw [if_neg (not_not_intro same), fitted, if_neg (not_not_intro same)]
    cases affected with
    | none => rfl
    | some index => exact replaceGuard_of_lt (affected_lt index rfl)
  · refine ⟨notices ++ [.imageCountChanged screen.slots.length imageCount], ?_⟩
    unfold fitSlots
    refine (get_bind _ _).trans ?_
    rw [if_pos same, fitted, if_pos same]
    exact (modify_bind _ _ _).trans (openSlots_eq imageCount _)

/-- How rebuilding the surface at a size ends. -/
inductive RebuildEnd (extent : Extent) (affected : Option Nat) (screen : Screen MemoryDevice) :
    EStateM.Result Fault (Screen MemoryDevice) SurfaceState → Prop
  /-- The window has no size. -/
  | deferred (notices : List Notice) (empty : extent.isEmpty = true) :
      RebuildEnd extent affected screen
        (.ok .recreating { screen.cleared.patched affected with notices })
  | rebuilt (notices : List Notice) (sized : extent.isEmpty = false)
      (enough : screen.device.failingBuilds < max screen.life.maxAttempts 1)
      (fits : screen.device.imageCount < Word.storageLimit) :
      RebuildEnd extent affected screen
        (.ok .valid
          { (screen.cleared.installed (attemptSize screen.life extent)).fitted
              screen.device.imageCount affected with
            notices })
  | exhausted (notices : List Notice) (sized : extent.isEmpty = false)
      (few : max screen.life.maxAttempts 1 ≤ screen.device.failingBuilds) :
      RebuildEnd extent affected screen
        (.error
          (.failure (.recreateExhausted (max screen.life.maxAttempts 1) MemoryDevice.refusal.text))
          { screen.cleared with
            device := screen.cleared.device.prepare
              (refusals (attemptSize screen.life extent) (max screen.life.maxAttempts 1)) 0
              (max screen.life.maxAttempts 1)
            notices })
  /-- There are more images than command buffers can be stored. -/
  | oversized (notices : List Notice) (sized : extent.isEmpty = false)
      (enough : screen.device.failingBuilds < max screen.life.maxAttempts 1)
      (unfit : Word.storageLimit ≤ screen.device.imageCount) :
      RebuildEnd extent affected screen
        (.error (.breach .overflow)
          { screen.cleared with
            device := screen.cleared.device.prepare
              (refusals (attemptSize screen.life extent) screen.device.failingBuilds ++
                SurfaceResources.abandonedCalls
                  (attemptSize screen.life extent screen.device.failingBuilds) screen.life.scene
                  screen.device.imageCount)
              0 screen.device.failingBuilds
            notices })

/-- Earlier notices do not matter to a rebuild. -/
theorem RebuildEnd.of_notices {notices : List Notice}
    {result : EStateM.Result Fault (Screen MemoryDevice) SurfaceState}
    (ended : RebuildEnd extent affected { screen with notices } result) :
    RebuildEnd extent affected screen result := by
  cases ended with
  | deferred reported empty =>
    cases affected <;> exact .deferred reported empty
  | rebuilt reported sized enough fits =>
    have ended : RebuildEnd extent affected screen _ := .rebuilt reported sized enough fits
    rw [← fitted_notices _ _ _ notices] at ended
    exact ended
  | exhausted reported sized few => exact .exhausted reported sized few
  | oversized reported sized enough unfit => exact .oversized reported sized enough unfit

/-- A rebuild takes the place of one that is scheduled. -/
theorem RebuildEnd.of_pending {pending : Option Extent}
    {result : EStateM.Result Fault (Screen MemoryDevice) SurfaceState}
    (ended : RebuildEnd extent affected
      { screen with life := { screen.life with pending } } result) :
    RebuildEnd extent affected screen result := by
  cases ended with
  | deferred reported empty => exact .deferred reported empty
  | rebuilt reported sized enough fits => exact .rebuilt reported sized enough fits
  | exhausted reported sized few => exact .exhausted reported sized few
  | oversized reported sized enough unfit => exact .oversized reported sized enough unfit

/-- Rebuilding a surface has one of four ends. -/
theorem recreate_end (extent : Extent) (screen : Screen MemoryDevice)
    (affected_lt : ∀ index ∈ affected, index < screen.slots.length) :
    RebuildEnd extent affected screen (recreate extent affected screen) := by
  unfold recreate
  rw [bind_of_ok (teardown_eq screen)]
  by_cases empty : extent.isEmpty
  · rw [if_pos empty]
    have ended : RebuildEnd extent affected screen _ :=
      .deferred (screen.notices ++ [.waitingForResize]) empty
    cases affected with
    | none => exact ended
    | some index =>
      let waiting : Screen MemoryDevice :=
        { screen.cleared with notices := screen.notices ++ [.waitingForResize] }
      have replaced : replaceGuard index waiting = .ok () (waiting.guarded index) :=
        replaceGuard_of_lt (affected_lt index rfl)
      refine (modify_bind _ _ _).trans ?_ ▸ ended
      exact bind_of_ok replaced
  · rw [if_neg empty]
    have sized : extent.isEmpty = false := Bool.eq_false_iff.mpr empty
    have attempted := buildWithin_end screen.cleared screen.cleared.life.maxAttempts extent
    obtain ⟨result, ran⟩ : ∃ result,
      buildWithin screen.cleared.life.maxAttempts extent screen.cleared = result := ⟨_, rfl⟩
    rw [ran] at attempted
    rw [get_bind]
    cases attempted with
    | built notices enough fits =>
      rw [bind_of_ok ran]
      let ready := screen.cleared.installed (attemptSize screen.life extent)
      have in_range : ∀ index ∈ affected, index < ready.slots.length := affected_lt
      obtain ⟨reported, fitted_eq⟩ := fitSlots_eq screen.device.imageCount notices in_range
      have state_eq : (ready.fitted screen.device.imageCount affected).life.state = .valid := by
        rw [life_fitted]
        rfl
      have ended : RebuildEnd extent affected screen _ :=
        RebuildEnd.rebuilt
          (reported ++ [.rebuilt (attemptSize screen.life extent screen.device.failingBuilds)
            screen.device.imageCount]) sized enough fits
      refine (congrArg _ ?_).mpr ended
      refine (modify_bind _ _ _).trans ((bind_of_ok fitted_eq).trans ?_)
      rw [← state_eq]
      rfl
    | exhausted notices few =>
      rw [bind_of_error ran, Nat.zero_add]
      exact .exhausted notices sized few
    | oversized notices enough unfit =>
      rw [bind_of_error ran]
      exact .oversized notices sized enough unfit

theorem preparesTo_cleared (screen : Screen MemoryDevice) :
    screen.device.PreparesTo screen.cleared.device :=
  MemoryDevice.preparesTo_prepare (idle_clearCalls screen.life) 0 0

theorem preparesTo_installed (sizes : Nat → Extent) (screen : Screen MemoryDevice) :
    screen.device.PreparesTo (screen.installed sizes).device :=
  MemoryDevice.preparesTo_prepare
    ((idle_refusals _ _).append (SurfaceResources.idle_buildCalls _ _ _)) 0 _

theorem preparesTo_patched (affected : Option Nat) (screen : Screen MemoryDevice) :
    screen.device.PreparesTo (screen.patched affected).device := by
  cases affected with
  | none => exact .refl _
  | some index => exact MemoryDevice.preparesTo_prepare (.cons rfl CallRecord.idle_nil) 1 0

theorem preparesTo_fitted (imageCount : Nat) (affected : Option Nat)
    (screen : Screen MemoryDevice) :
    screen.device.PreparesTo (screen.fitted imageCount affected).device := by
  rw [fitted]
  split
  · exact MemoryDevice.preparesTo_prepare (MemoryDevice.idle_slotCalls _) _ 0
  · exact preparesTo_patched affected screen

/-- A rebuild does nothing to the device but prepare a surface and its frame slots. -/
theorem RebuildEnd.preparesTo {result : EStateM.Result Fault (Screen MemoryDevice) SurfaceState}
    (ended : RebuildEnd extent affected screen result) :
    screen.device.PreparesTo (leftBy result).device := by
  have cleared := preparesTo_cleared screen
  cases ended with
  | deferred notices empty => exact cleared.trans (preparesTo_patched affected screen.cleared)
  | rebuilt notices sized enough fits =>
    have installed := preparesTo_installed (attemptSize screen.life extent) screen.cleared
    exact (cleared.trans installed).trans (preparesTo_fitted screen.device.imageCount affected _)
  | exhausted notices sized few =>
    exact cleared.trans (MemoryDevice.preparesTo_prepare (idle_refusals _ _) 0 _)
  | oversized notices sized enough unfit =>
    exact cleared.trans (MemoryDevice.preparesTo_prepare
      ((idle_refusals _ _).append (SurfaceResources.idle_abandonedCalls _ _ _)) 0 _)

/-- A rebuild fails only because its attempts are used up or there is no room for the images. -/
theorem RebuildEnd.fault_cases {fault : Fault} {after : Screen MemoryDevice}
    (ended : RebuildEnd extent affected screen (.error fault after)) :
    (∃ attempts last, fault = .failure (.recreateExhausted attempts last)) ∨
      fault = .breach .overflow ∧ Word.storageLimit ≤ screen.device.imageCount := by
  cases ended with
  | exhausted notices sized few => exact .inl ⟨_, _, rfl⟩
  | oversized notices sized enough unfit => exact .inr ⟨rfl, unfit⟩

/-- A rebuild keeps the slots, up to the guard of the affected one, or it fits them to another
number of images. -/
theorem RebuildEnd.slots_cases {state : SurfaceState} {after : Screen MemoryDevice}
    (images : 0 < screen.device.imageCount)
    (ended : RebuildEnd extent affected screen (.ok state after)) :
    (after.slots = (screen.patched affected).slots ∧
        after.device.fences = (screen.patched affected).device.fences) ∨
      (after.slots.length = screen.device.imageCount ∧
        screen.device.imageCount ≠ screen.slots.length) := by
  cases ended with
  | deferred notices empty =>
    left
    cases affected with
    | none => simp [patched, cleared]
    | some index => simp [patched, guarded, cleared]
  | rebuilt notices sized enough fits =>
    by_cases same : screen.device.imageCount = screen.slots.length
    · left
      let built := screen.cleared.installed (attemptSize screen.life extent)
      have kept : built.fitted screen.device.imageCount affected = built.patched affected :=
        if_neg (not_not_intro same)
      rw [kept]
      cases affected with
      | none => simp [built, patched, installed, cleared]
      | some index => simp [built, patched, guarded, installed, cleared]
    · right
      exact ⟨length_slots_fitted _ _ _ images, same⟩

/-- A rebuild that does not fail keeps the number of slots or makes it that of the images. -/
theorem RebuildEnd.length_slots {state : SurfaceState} {after : Screen MemoryDevice}
    (images : 0 < screen.device.imageCount)
    (ended : RebuildEnd extent affected screen (.ok state after)) :
    after.slots.length = screen.slots.length ∨ after.slots.length = screen.device.imageCount := by
  obtain ⟨slots, _⟩ | ⟨length, _⟩ := ended.slots_cases images
  · rw [slots, length_slots_patched]
    exact .inl rfl
  · exact .inr length

/-- A rebuild that fails leaves the frame slots as they were. -/
theorem RebuildEnd.slots_of_error {fault : Fault} {after : Screen MemoryDevice}
    (ended : RebuildEnd extent affected screen (.error fault after)) :
    after.slots = screen.slots := by
  cases ended <;> rfl

/-- A scheduled rebuild is carried out as any other. -/
theorem recreatePending_end (scheduled : screen.life.pending = some extent) :
    RebuildEnd extent none screen (recreatePending screen) := by
  unfold recreatePending
  rw [get_bind, scheduled]
  exact .of_pending (recreate_end extent _ (by simp))

end Screen

end Waterfall

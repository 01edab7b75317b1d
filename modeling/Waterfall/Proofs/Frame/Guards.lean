import Waterfall.Proofs.Frame.Agreement

/-! # Frame-slot guards

As long as no call failed, the guard of a slot is unsignaled exactly if the last submission made
with it was held. A turn resets the guard before it knows whether a submission will follow; every
way out of the turn that is not a failure either submits with the guard or replaces it.
-/

namespace Waterfall

/-- Whether a call is a submission with a fence and, if so, whether it was held. -/
def CallRecord.heldWith? (fence : FenceId) (record : CallRecord) : Option Bool :=
  match record.call with
  | .submit _ used _ held => if used = fence then some held else none
  | _ => none

theorem CallRecord.heldWith?_of_idle {fence : FenceId} {record : CallRecord}
    (idle : record.draws = false) : record.heldWith? fence = none := by
  obtain ⟨call, refused⟩ := record
  cases call with
  | submit image used recorded held => cases idle
  | _ => rfl

namespace MemoryDevice

/-- Whether each submission with a fence was held, in order. -/
def submissions (fence : FenceId) (device : MemoryDevice) : List Bool :=
  device.calls.filterMap (CallRecord.heldWith? fence)

/-- The last submission with a fence was held. -/
def LastHeld (device : MemoryDevice) (fence : FenceId) : Prop :=
  (device.submissions fence).getLast? = some true

/-- A fence that was created. -/
def Issued (device : MemoryDevice) (fence : Nat) : Prop :=
  0 < fence ∧ fence ≤ device.fences.length

variable {device after : MemoryDevice} {fence : Nat}

theorem Issued.index_lt (issued : device.Issued fence) : fence - 1 < device.fences.length :=
  Nat.sub_one_lt_of_le issued.1 issued.2

theorem submissions_append {added : List CallRecord}
    (calls : after.calls = device.calls ++ added) :
    after.submissions fence =
      device.submissions fence ++ added.filterMap (CallRecord.heldWith? fence) := by
  rw [submissions, calls, List.filterMap_append]
  rfl

theorem IdleTo.submissions_eq (idle : device.IdleTo after) :
    after.submissions fence = device.submissions fence := by
  obtain ⟨added, idle, calls⟩ := idle.calls
  have none_submits : added.filterMap (CallRecord.heldWith? fence) = [] :=
    List.filterMap_eq_nil_iff.mpr fun record member =>
      CallRecord.heldWith?_of_idle (idle record member)
  rw [submissions_append calls, none_submits, List.append_nil]

theorem IdleTo.issued (idle : device.IdleTo after) (issued : device.Issued fence) :
    after.Issued fence := by
  obtain ⟨guards, fences⟩ := idle.fences
  refine ⟨issued.1, Nat.le_trans issued.2 ?_⟩
  rw [fences, List.length_append]
  exact Nat.le_add_right _ _

/-- A call that draws nothing leaves the fences that there are alone. -/
theorem IdleTo.isSignaled_eq (idle : device.IdleTo after) (issued : device.Issued fence) :
    after.isSignaled fence = device.isSignaled fence := by
  obtain ⟨guards, fences⟩ := idle.fences
  rw [isSignaled, fences, List.getD_eq_getElem?_getD,
    List.getElem?_append_left issued.index_lt, ← List.getD_eq_getElem?_getD]
  rfl

/-- New fences are signaled. -/
theorem IdleTo.isSignaled_new (idle : device.IdleTo after) (new : device.fences.length < fence)
    (issued : after.Issued fence) : after.isSignaled fence = true := by
  obtain ⟨guards, fences⟩ := idle.fences
  have index_lt := issued.index_lt
  rw [fences, List.length_append, List.length_replicate] at index_lt
  have inside : fence - 1 - device.fences.length < guards := by omega
  rw [isSignaled, fences, List.getD_eq_getElem?_getD, List.getElem?_append_right (by omega),
    List.getElem?_replicate_of_lt inside]
  rfl

theorem slot_of_newSlots {count index : Nat} {slot : FrameSlot}
    (found : (device.newSlots count)[index]? = some slot) :
    index < count ∧ slot = ⟨device.fences.length + 1 + index⟩ := by
  rw [newSlots, List.getElem?_map] at found
  obtain ⟨fence, numbered, rfl⟩ := Option.map_eq_some_iff.mp found
  obtain ⟨inside, rfl⟩ := List.getElem?_eq_some_iff.mp numbered
  have index_lt := inside
  rw [List.length_range'] at index_lt
  refine ⟨index_lt, ?_⟩
  rw [List.getElem_range', Nat.one_mul]

theorem getD_set_self {fences : List Bool} {signaled : Bool} {index : Nat}
    (inside : index < fences.length) : (fences.set index signaled).getD index false = signaled := by
  rw [List.getD_eq_getElem?_getD, List.getElem?_set_self inside]
  rfl

theorem getD_set_ne {fences : List Bool} {signaled : Bool} {index other : Nat}
    (different : index ≠ other) :
    (fences.set index signaled).getD other false = fences.getD other false := by
  rw [List.getD_eq_getElem?_getD, List.getElem?_set_ne different, ← List.getD_eq_getElem?_getD]

end MemoryDevice

namespace Screen

/-- The slots have guards of their own, and a guard is unsignaled exactly if the last submission
with it was held. The guard of the affected slot may be unsignaled in any case. -/
structure Guarded (affected : Option Nat) (screen : Screen MemoryDevice) : Prop where
  issued : ∀ slot ∈ screen.slots, screen.device.Issued slot.inFlight
  distinct : ∀ (first second : Nat) (slot : FrameSlot), screen.slots[first]? = some slot →
    screen.slots[second]? = some slot → first = second
  submitted : ∀ fence, screen.device.submissions fence ≠ [] → screen.device.Issued fence
  unsignaled_iff : ∀ (index : Nat) (slot : FrameSlot), screen.slots[index]? = some slot →
    affected ≠ some index →
      (screen.device.isSignaled slot.inFlight = false ↔ screen.device.LastHeld slot.inFlight)

variable {screen after : Screen MemoryDevice} {extent : Extent} {affected : Option Nat}

/-- Another slot has another guard. -/
theorem Guarded.guard_ne {index other : Nat} {guard : FenceId} {slot : FrameSlot}
    (guarded : screen.Guarded affected) (found : screen.slots[index]? = some ⟨guard⟩)
    (found_other : screen.slots[other]? = some slot) (different : index ≠ other) :
    guard ≠ slot.inFlight := by
  rintro rfl
  exact different (guarded.distinct index other slot found found_other)

theorem Guarded.submitted_of_idle (guarded : screen.Guarded affected)
    (idle : screen.device.IdleTo after.device) (fence : FenceId)
    (used : after.device.submissions fence ≠ []) : after.device.Issued fence := by
  rw [idle.submissions_eq] at used
  exact idle.issued (guarded.submitted fence used)

/-- Calls that draw nothing change nothing about the guards of the slots. -/
theorem Guarded.of_idle (guarded : screen.Guarded affected)
    (idle : screen.device.IdleTo after.device) (slots : after.slots = screen.slots) :
    after.Guarded affected where
  issued slot member := idle.issued (guarded.issued slot (slots ▸ member))
  distinct := slots ▸ guarded.distinct
  submitted := guarded.submitted_of_idle idle
  unsignaled_iff index slot found unaffected := by
    rw [slots] at found
    rw [idle.isSignaled_eq (guarded.issued slot (List.mem_of_getElem? found)),
      MemoryDevice.LastHeld, idle.submissions_eq]
    exact guarded.unsignaled_iff index slot found unaffected

/-- A new guard is signaled, and nothing was submitted with it. -/
theorem Guarded.unsignaled_iff_new (guarded : screen.Guarded affected)
    (idle : screen.device.IdleTo after.device) {fence : FenceId}
    (new : screen.device.fences.length < fence) (issued : after.device.Issued fence) :
    after.device.isSignaled fence = false ↔ after.device.LastHeld fence := by
  have unused : screen.device.submissions fence = [] := by
    refine Decidable.byContradiction fun used => ?_
    exact absurd (guarded.submitted fence used).2 (Nat.not_le.mpr new)
  rw [idle.isSignaled_new new issued, MemoryDevice.LastHeld, idle.submissions_eq, unused]
  simp

/-- All slots may be replaced by new ones. -/
theorem Guarded.opened (guarded : screen.Guarded affected) (count : Nat) :
    (screen.opened count).Guarded none := by
  have idle : screen.device.IdleTo (screen.opened count).device :=
    (MemoryDevice.preparesTo_prepare (MemoryDevice.idle_slotCalls _) _ 0).idleTo
  have issued : ∀ slot ∈ (screen.opened count).slots,
      screen.device.fences.length < slot.inFlight ∧
        (screen.opened count).device.Issued slot.inFlight := by
    intro slot member
    obtain ⟨index, found⟩ := List.getElem?_of_mem member
    obtain ⟨inside, rfl⟩ := MemoryDevice.slot_of_newSlots found
    have fences : (screen.opened count).device.fences.length =
        screen.device.fences.length + max count 1 := by
      simp [Screen.opened]
    refine ⟨?_, ?_, ?_⟩ <;> dsimp only <;> omega
  refine ⟨fun slot member => (issued slot member).2, ?_, guarded.submitted_of_idle idle, ?_⟩
  · intro first second slot found_first found_second
    have guard_first := (MemoryDevice.slot_of_newSlots found_first).2
    have guard_second := (MemoryDevice.slot_of_newSlots found_second).2
    exact Nat.add_left_cancel (FrameSlot.mk.inj (guard_first.symm.trans guard_second))
  · intro index slot found _
    obtain ⟨new, issued⟩ := issued slot (List.mem_of_getElem? found)
    exact guarded.unsignaled_iff_new idle new issued

/-- Once a slot got a new guard, a slot is that one or as it was. -/
theorem slot_cases_of_guarded {index other : Nat} {slot : FrameSlot}
    (found : (screen.guarded index).slots[other]? = some slot) :
    (other = index ∧ slot = ⟨screen.device.fences.length + 1⟩) ∨
      (other ≠ index ∧ screen.slots[other]? = some slot) := by
  by_cases same : index = other
  · subst same
    have inside := (List.getElem?_eq_some_iff.mp found).1
    rw [guarded, List.length_set] at inside
    rw [guarded, List.getElem?_set_self inside] at found
    exact .inl ⟨rfl, (Option.some.inj found).symm⟩
  · rw [guarded, List.getElem?_set_ne same] at found
    exact .inr ⟨Ne.symm same, found⟩

/-- The affected slot may be given a new guard. -/
theorem Guarded.guarded {index : Nat} (guarded : screen.Guarded (some index)) :
    (screen.guarded index).Guarded none := by
  have idle : screen.device.IdleTo (screen.guarded index).device :=
    (MemoryDevice.preparesTo_prepare (.cons rfl CallRecord.idle_nil) 1 0).idleTo
  let guard := screen.device.fences.length + 1
  have new_issued : (screen.guarded index).device.Issued guard := by
    refine ⟨Nat.succ_pos _, ?_⟩
    simp [Screen.guarded, guard]
  have old {other : Nat} {slot : FrameSlot} (found : screen.slots[other]? = some slot) :
      screen.device.Issued slot.inFlight := guarded.issued slot (List.mem_of_getElem? found)
  have not_old {other : Nat} (found : screen.slots[other]? = some ⟨guard⟩) : False :=
    absurd (old found).2 (Nat.not_succ_le_self _)
  refine ⟨?_, ?_, guarded.submitted_of_idle idle, ?_⟩
  · intro slot member
    obtain ⟨other, found⟩ := List.getElem?_of_mem member
    obtain ⟨_, rfl⟩ | ⟨_, found⟩ := slot_cases_of_guarded found
    · exact new_issued
    · exact idle.issued (old found)
  · intro first second slot found_first found_second
    obtain ⟨rfl, rfl⟩ | ⟨_, old_first⟩ := slot_cases_of_guarded found_first
    · obtain ⟨rfl, _⟩ | ⟨_, old_second⟩ := slot_cases_of_guarded found_second
      · rfl
      · exact (not_old old_second).elim
    · obtain ⟨rfl, rfl⟩ | ⟨_, old_second⟩ := slot_cases_of_guarded found_second
      · exact (not_old old_first).elim
      · exact guarded.distinct first second slot old_first old_second
  · intro other slot found _
    obtain ⟨_, rfl⟩ | ⟨different, found⟩ := slot_cases_of_guarded found
    · exact guarded.unsignaled_iff_new idle (Nat.lt_succ_self _) new_issued
    · rw [idle.isSignaled_eq (old found), MemoryDevice.LastHeld, idle.submissions_eq]
      exact guarded.unsignaled_iff other slot found (by simpa using Ne.symm different)

theorem Guarded.patched (guarded : screen.Guarded affected) :
    (screen.patched affected).Guarded none := by
  cases affected with
  | none => exact guarded
  | some index => exact guarded.guarded

theorem Guarded.fitted (guarded : screen.Guarded affected) (imageCount : Nat) :
    (screen.fitted imageCount affected).Guarded none := by
  rw [Screen.fitted]
  split
  · exact guarded.opened imageCount
  · exact guarded.patched

/-- A rebuild that does not fail gives the affected slot a guard again. -/
theorem Guarded.rebuild {state : SurfaceState} (guarded : screen.Guarded affected)
    (ended : RebuildEnd extent affected screen (.ok state after)) : after.Guarded none := by
  have cleared : screen.cleared.Guarded affected :=
    guarded.of_idle (preparesTo_cleared screen).idleTo rfl
  cases ended with
  | deferred notices empty => exact cleared.patched.of_idle (.refl _) rfl
  | rebuilt notices sized enough fits =>
    have installed := preparesTo_installed (attemptSize screen.life extent) screen.cleared
    have built : (screen.cleared.installed (attemptSize screen.life extent)).Guarded affected :=
      cleared.of_idle installed.idleTo rfl
    exact (built.fitted screen.device.imageCount).of_idle (.refl _) rfl

/-- One slot got a new guard, which is signaled, and the guards of the others are as they were. -/
def Renewed (slot : Nat) (before after : Screen MemoryDevice) : Prop :=
  ∃ guard : Nat, slot < before.slots.length ∧ after.slots = before.slots.set slot ⟨guard⟩ ∧
    before.device.fences.length < guard ∧ after.device.isSignaled guard = true ∧
    ∀ (index : Nat) (other : FrameSlot), index ≠ slot → before.slots[index]? = some other →
      after.device.isSignaled other.inFlight = before.device.isSignaled other.inFlight

theorem Renewed.of_same {slot : Nat} {before ready : Screen MemoryDevice}
    (renewed : Renewed slot ready after) (slots : ready.slots = before.slots)
    (fences : ready.device.fences = before.device.fences) : Renewed slot before after := by
  obtain ⟨guard, inside, replaced, new, signaled, others⟩ := renewed
  rw [slots] at inside replaced others
  rw [fences] at new
  refine ⟨guard, inside, replaced, new, signaled, ?_⟩
  intro index other different found
  rw [others index other different found, MemoryDevice.isSignaled, fences]
  rfl

end Screen

namespace MemoryDevice

variable {device : MemoryDevice} {guard fence : Nat}

theorem submissions_asked (guardTimeout acquireTimeout : Duration) :
    (device.asked guard guardTimeout acquireTimeout).submissions fence =
      device.submissions fence := by
  have calls : (device.asked guard guardTimeout acquireTimeout).calls = device.calls ++
      [.accepted (.waitFence guard guardTimeout), .accepted (.resetFence guard),
        .accepted (.acquire acquireTimeout)] := rfl
  rw [submissions_append calls]
  exact List.append_nil _

theorem submissions_drawn {overlay : Overlay} {frame image : Nat} {history : History Point}
    {uniforms : Uniforms} :
    (device.drawn overlay frame history uniforms image guard).submissions fence =
      device.submissions fence ++ if guard = fence then [device.holdSubmissions] else [] := by
  have calls : (device.drawn overlay frame history uniforms image guard).calls =
      device.calls ++ drawCalls overlay frame history image guard device.holdSubmissions := rfl
  rw [submissions_append calls]
  congr 1
  have overlaid : (overlayCalls overlay frame).filterMap (CallRecord.heldWith? fence) = [] := by
    unfold overlayCalls
    split <;> rfl
  rw [drawCalls, List.filterMap_append, overlaid, List.nil_append]
  simp only [List.filterMap_cons, List.filterMap_nil, CallRecord.heldWith?, CallRecord.accepted]
  by_cases same : guard = fence
  · rw [if_pos same, if_pos same]
  · rw [if_neg same, if_neg same]

theorem Issued.index_ne {other : Nat} (issued : device.Issued guard)
    (other_issued : device.Issued other) (different : guard ≠ other) : guard - 1 ≠ other - 1 := by
  have := issued.1
  have := other_issued.1
  omega

section

variable {guardTimeout acquireTimeout : Duration}

theorem Issued.asked (issued : device.Issued fence) :
    (device.asked guard guardTimeout acquireTimeout).Issued fence := by
  refine ⟨issued.1, Nat.le_trans issued.2 (Nat.le_of_eq ?_)⟩
  exact List.length_set.symm

theorem isSignaled_asked_self (issued : device.Issued guard) :
    (device.asked guard guardTimeout acquireTimeout).isSignaled guard = false :=
  getD_set_self issued.index_lt

theorem isSignaled_asked_of_ne (guard_issued : device.Issued guard)
    (issued : device.Issued fence) (different : guard ≠ fence) :
    (device.asked guard guardTimeout acquireTimeout).isSignaled fence = device.isSignaled fence :=
  getD_set_ne (guard_issued.index_ne issued different)

end

section

variable {overlay : Overlay} {frame image : Nat} {history : History Point} {uniforms : Uniforms}

theorem Issued.drawn (issued : device.Issued fence) :
    (device.drawn overlay frame history uniforms image guard).Issued fence := by
  refine ⟨issued.1, Nat.le_trans issued.2 (Nat.le_of_eq ?_)⟩
  unfold MemoryDevice.drawn
  cases device.holdSubmissions with
  | true => rfl
  | false => exact List.length_set.symm

theorem isSignaled_drawn_self (issued : device.Issued guard)
    (unsignaled : device.isSignaled guard = false) :
    (device.drawn overlay frame history uniforms image guard).isSignaled guard =
      !device.holdSubmissions := by
  unfold MemoryDevice.drawn
  cases device.holdSubmissions with
  | true => exact unsignaled
  | false => exact getD_set_self issued.index_lt

theorem isSignaled_drawn_of_ne (guard_issued : device.Issued guard)
    (issued : device.Issued fence) (different : guard ≠ fence) :
    (device.drawn overlay frame history uniforms image guard).isSignaled fence =
      device.isSignaled fence := by
  unfold MemoryDevice.drawn
  cases device.holdSubmissions with
  | true => rfl
  | false => exact getD_set_ne (guard_issued.index_ne issued different)

end

end MemoryDevice

namespace FrameLoop

open Screen (Guarded Renewed)

variable {loop : FrameLoop MemoryDevice} {resources : SurfaceResources} {guard : FenceId}
  {moment : Moment}

/-- A guard that was reset may be unsignaled for any reason; the others are not touched. -/
theorem guarded_asked (guarded : loop.toScreen.Guarded none)
    (serves : loop.Serves resources guard) :
    (loop.asked guard).toScreen.Guarded (some loop.slot) := by
  have guard_issued := guarded.issued _ (List.mem_of_getElem? serves.guarded)
  have submissions (fence : Nat) : (loop.asked guard).device.submissions fence =
      loop.device.submissions fence := MemoryDevice.submissions_asked _ _
  refine ⟨fun slot member => (guarded.issued slot member).asked, guarded.distinct, ?_, ?_⟩
  · intro fence used
    rw [submissions] at used
    exact (guarded.submitted fence used).asked
  · intro index slot found unaffected
    have different : loop.slot ≠ index := fun same => unaffected (congrArg some same)
    have issued := guarded.issued slot (List.mem_of_getElem? found)
    have signal : (loop.asked guard).device.isSignaled slot.inFlight =
        loop.device.isSignaled slot.inFlight :=
      MemoryDevice.isSignaled_asked_of_ne guard_issued issued
        (guarded.guard_ne serves.guarded found different)
    rw [signal, MemoryDevice.LastHeld, submissions]
    exact guarded.unsignaled_iff index slot found nofun

/-- A submission with the guard that was reset decides whether it is signaled again. -/
theorem guarded_drawn {image : Nat} {uniforms : Uniforms}
    (guarded : loop.toScreen.Guarded (some loop.slot))
    (guard_found : loop.slots[loop.slot]? = some ⟨guard⟩)
    (unsignaled : loop.device.isSignaled guard = false) :
    (loop.drawn moment resources uniforms image guard).toScreen.Guarded none := by
  let after := loop.drawn moment resources uniforms image guard
  have guard_issued := guarded.issued _ (List.mem_of_getElem? guard_found)
  have submissions (fence : Nat) : after.device.submissions fence =
      loop.device.submissions fence ++
        if guard = fence then [loop.device.holdSubmissions] else [] :=
    MemoryDevice.submissions_drawn
  refine ⟨fun slot member => (guarded.issued slot member).drawn, guarded.distinct, ?_, ?_⟩
  · intro fence used
    by_cases same : guard = fence
    · exact same ▸ guard_issued.drawn
    · rw [submissions, if_neg same, List.append_nil] at used
      exact (guarded.submitted fence used).drawn
  · intro index slot found _
    by_cases same : loop.slot = index
    · subst same
      obtain rfl := Option.some.inj (guard_found.symm.trans found)
      have signal : after.device.isSignaled guard = !loop.device.holdSubmissions :=
        MemoryDevice.isSignaled_drawn_self guard_issued unsignaled
      rw [signal, MemoryDevice.LastHeld, submissions, if_pos rfl, List.getLast?_concat]
      simp
    · have different := guarded.guard_ne guard_found found same
      have issued := guarded.issued slot (List.mem_of_getElem? found)
      have signal : after.device.isSignaled slot.inFlight =
          loop.device.isSignaled slot.inFlight :=
        MemoryDevice.isSignaled_drawn_of_ne guard_issued issued different
      rw [signal, MemoryDevice.LastHeld, submissions, if_neg different, List.append_nil]
      exact guarded.unsignaled_iff index slot found (by simpa using same)

theorem guarded_rebuildPending {ready : FrameLoop MemoryDevice}
    (guarded : loop.toScreen.Guarded none) (ended : PendingEnd loop (.ok () ready)) :
    ready.toScreen.Guarded none := by
  cases ended with
  | idle unscheduled => exact guarded
  | rebuilt scheduled ended => exact guarded.rebuild ended

/-- Both ways out of a turn that was told about an image give the slot a guard again. -/
theorem guarded_of_asked {outcome : TurnOutcome} {after : FrameLoop MemoryDevice}
    (guarded : loop.toScreen.Guarded none) (serves : loop.Serves resources guard)
    (ended : AskedEnd moment loop resources guard (.ok outcome after)) :
    after.toScreen.Guarded none := by
  have asked := guarded_asked guarded serves
  cases ended with
  | recreated outdated ended => exact asked.rebuild ended
  | @presented uniforms notices current prompt counted =>
    let supplied := loop.supplied guard resources
    have supplied_guarded : supplied.toScreen.Guarded (some supplied.slot) :=
      asked.of_idle (.refl _) rfl
    have issued := guarded.issued _ (List.mem_of_getElem? serves.guarded)
    have unsignaled : supplied.device.isSignaled guard = false :=
      MemoryDevice.isSignaled_asked_self issued
    have drawn : (supplied.drawn moment resources.handedOut uniforms
        resources.swapchain.nextImage guard).toScreen.Guarded none :=
      guarded_drawn supplied_guarded serves.guarded unsignaled
    exact drawn.of_idle (.refl _) rfl

theorem guarded_turn {outcome : TurnOutcome} {after : FrameLoop MemoryDevice}
    (agrees : loop.Agrees) (guarded : loop.toScreen.Guarded none)
    (ran : loop.turn moment = .ok outcome after) : after.toScreen.Guarded none := by
  cases agrees.turn_end ran with
  | skipped rebuilt invalid =>
    have pending := PendingEnd.of_run rebuilt
    exact guarded_rebuildPending guarded pending
  | asked rebuilt serves signaled ended =>
    have pending := PendingEnd.of_run rebuilt
    exact guarded_of_asked (guarded_rebuildPending guarded pending) serves ended

/-- Every call that does not fail leaves each slot with a guard. -/
theorem guarded_run {call : LoopCall} (agrees : loop.Agrees)
    (guarded : loop.toScreen.Guarded none)
    (succeeded : (call.run loop).1.isFailed = false) :
    (call.run loop).2.toScreen.Guarded none := by
  obtain ⟨moment, rfl⟩ | other := call.turn_or
  · have ended := LoopCall.run_end (.turn moment) loop
    generalize LoopCall.run (.turn moment) loop = result at ended succeeded
    cases ended with
    | turned ran => exact guarded_turn agrees guarded ran
    | turnFailed ran => cases succeeded
  · exact guarded.of_idle (LoopCall.idleTo_run other) (LoopCall.pace_run other).1

/-- A loop that was just created has a guard for each slot. -/
theorem guarded_of_created {config : RenderConfig} {camera : Camera} {layout : Layout}
    {overlay : Overlay} {settings : DeviceSettings}
    (created : Created config camera layout overlay settings.device loop) :
    loop.toScreen.Guarded none := by
  let bare := unstarted config camera layout overlay settings.device
  have bare_guarded : bare.toScreen.Guarded none := by
    refine ⟨nofun, nofun, ?_, nofun⟩
    intro fence used
    exact absurd rfl used
  have queried (indices : List Nat) :
      (queriedScreen config indices settings.device).Guarded none := by
    refine bare_guarded.of_idle ⟨⟨_, ?_, rfl⟩, ⟨0, rfl⟩, rfl, rfl⟩ rfl
    exact .cons rfl (.cons rfl CallRecord.idle_nil)
  cases created with
  | @deferred indices notices generated empty =>
    exact ((queried indices).opened (config.framesInFlight + 1)).of_idle (.refl _) rfl
  | @built indices notices generated sized ready fits =>
    have calls := SurfaceResources.idle_buildCalls settings.device.window config.scene
      settings.device.imageCount
    have built : (builtScreen config indices settings.device).Guarded none :=
      (queried indices).of_idle (MemoryDevice.preparesTo_prepare calls 0 0).idleTo rfl
    exact (built.opened settings.device.imageCount).of_idle (.refl _) rfl

/-- A turn waits in vain exactly if the last submission with the guard it needs was held. -/
theorem turn_guardTimeout_iff (agrees : loop.Agrees) (guarded : loop.toScreen.Guarded none)
    (moment : Moment) (slot : Nat) (waited : Duration) :
    (∃ next, loop.turn moment = .error (.violation (.guardTimeout slot waited)) next) ↔
      ∃ ready guard, loop.rebuildPending = .ok () ready ∧ ready.life.isValid = true ∧
        slot = ready.slot ∧ waited = ready.guardTimeout ∧ ready.slots[slot]? = some ⟨guard⟩ ∧
        ready.device.LastHeld guard := by
  -- The guard of a loop that serves is unsignaled exactly if its last submission was held.
  have unsignaled_iff {ready : FrameLoop MemoryDevice} {resources : SurfaceResources}
      {guard : FenceId} (rebuilt : loop.rebuildPending = .ok () ready)
      (serves : ready.Serves resources guard) :
      ready.device.isSignaled guard = false ↔ ready.device.LastHeld guard := by
    have pending := PendingEnd.of_run rebuilt
    exact (guarded_rebuildPending guarded pending).unsignaled_iff _ _ serves.guarded nofun
  constructor
  · rintro ⟨next, failed⟩
    cases agrees.turn_end failed with
    | rebuildFailed failed =>
      have pending := PendingEnd.of_run failed
      cases pending with
      | failed scheduled ended => cases ended
    | guardTimeout rebuilt serves unsignaled =>
      refine ⟨_, _, rebuilt, ?_, rfl, rfl, serves.guarded,
        (unsignaled_iff rebuilt serves).mp unsignaled⟩
      rw [SurfaceLifecycle.isValid, serves.valid]
      rfl
    | asked rebuilt serves signaled ended =>
      cases ended with
      | recreateFailed outdated ended => cases ended
  · rintro ⟨ready, guard, rebuilt, valid, rfl, rfl, found, held⟩
    generalize ran : loop.turn moment = result
    cases agrees.turn_end ran with
    | rebuildFailed failed => cases failed.symm.trans rebuilt
    | skipped other invalid =>
      cases other.symm.trans rebuilt
      cases invalid.symm.trans valid
    | guardTimeout other serves unsignaled =>
      cases other.symm.trans rebuilt
      exact ⟨_, rfl⟩
    | asked other serves signaled ended =>
      cases other.symm.trans rebuilt
      cases serves.guarded.symm.trans found
      cases ((unsignaled_iff rebuilt serves).mpr held).symm.trans signaled

/-- A turn that ends with as many slots as it began with did not change them before it reset the
guard. -/
theorem slots_kept {ready : FrameLoop MemoryDevice} {state : SurfaceState}
    {screen : Screen MemoryDevice} {extent : Extent} {affected : Option Nat}
    (images : 0 < loop.device.imageCount) (pending : PendingEnd loop (.ok () ready))
    (ended : Screen.RebuildEnd extent affected (ready.asked guard).toScreen (.ok state screen))
    (same : screen.slots.length = loop.slots.length) :
    ready.slots = loop.slots ∧ ready.device.fences = loop.device.fences := by
  have ready_images : (ready.asked guard).device.imageCount = loop.device.imageCount :=
    pending.preparesTo.imageCount
  cases pending with
  | idle unscheduled => exact ⟨rfl, rfl⟩
  | rebuilt scheduled first =>
    obtain kept | ⟨length, changed⟩ := first.slots_cases images
    · exact kept
    -- The first rebuild fitted the slots to the images, and the second one kept that number.
    · have screen_length : screen.slots.length = loop.device.imageCount := by
        obtain kept | refitted := ended.length_slots (ready_images ▸ images)
        · exact kept.trans length
        · exact refitted.trans ready_images
      exact absurd (screen_length.symm.trans same) changed

/-- A rebuild that leaves the number of slots as it is replaces the guard that was reset and
touches no other. -/
theorem renewed_of_rebuild {state : SurfaceState} {screen : Screen MemoryDevice} {extent : Extent}
    (images : 0 < (loop.asked guard).device.imageCount) (guarded : loop.toScreen.Guarded none)
    (serves : loop.Serves resources guard)
    (ended : Screen.RebuildEnd extent (some loop.slot) (loop.asked guard).toScreen
      (.ok state screen))
    (same : screen.slots.length = loop.slots.length) : Renewed loop.slot loop.toScreen screen := by
  obtain ⟨replaced, added⟩ | ⟨length, changed⟩ := ended.slots_cases images
  · have idle : (loop.asked guard).device.IdleTo screen.device := ended.preparesTo.idleTo
    let fresh := (loop.asked guard).device.fences.length + 1
    have fences : (loop.asked guard).device.fences.length = loop.device.fences.length :=
      List.length_set
    have issued : screen.device.Issued fresh := by
      refine ⟨Nat.succ_pos _, Nat.le_of_eq ?_⟩
      rw [added]
      simp [fresh, Screen.patched, Screen.guarded]
    refine ⟨fresh, serves.slot_lt, replaced, ?_, ?_, ?_⟩
    · exact fences ▸ Nat.lt_succ_self _
    · exact idle.isSignaled_new (Nat.lt_succ_self _) issued
    · intro index other different found
      have guard_issued := guarded.issued _ (List.mem_of_getElem? serves.guarded)
      have other_issued := guarded.issued other (List.mem_of_getElem? found)
      calc screen.device.isSignaled other.inFlight
          = (loop.asked guard).device.isSignaled other.inFlight :=
            idle.isSignaled_eq other_issued.asked
        _ = loop.device.isSignaled other.inFlight :=
            MemoryDevice.isSignaled_asked_of_ne guard_issued other_issued
              (guarded.guard_ne serves.guarded found (Ne.symm different))
  · exact absurd (length.symm.trans same) changed

/-- A turn that rebuilds the surface keeps the number of slots if that is the number of images.
Whenever a rebuild keeps it, all guards stay but the one that was reset. -/
theorem turn_recreated_slots {frame slot : Nat} {next : FrameLoop MemoryDevice}
    (agrees : loop.Agrees) (guarded : loop.toScreen.Guarded none)
    (ran : loop.turn moment = .ok (.recreated frame slot) next) :
    (loop.slots.length = loop.device.imageCount → next.slots.length = loop.slots.length) ∧
      (next.slots.length = loop.slots.length → Renewed slot loop.toScreen next.toScreen) ∧
      ∀ ready, loop.rebuildPending = .ok () ready → next.slots.length = ready.slots.length →
        Renewed slot ready.toScreen next.toScreen := by
  have images := agrees.screen.images_pos
  cases agrees.turn_end ran with
  | @asked ready resources used _ rebuilt serves signaled ended =>
    have pending := PendingEnd.of_run rebuilt
    have ready_guarded := guarded_rebuildPending guarded pending
    have ready_images : (ready.asked used).device.imageCount = loop.device.imageCount :=
      pending.preparesTo.imageCount
    cases ended with
    | @recreated state screen outdated ended =>
      have renewed (same : screen.slots.length = ready.slots.length) :
          Renewed ready.slot ready.toScreen screen :=
        renewed_of_rebuild (ready_images ▸ images) ready_guarded serves ended same
      refine ⟨?_, ?_, ?_⟩
      · intro matched
        have ready_length : ready.slots.length = loop.slots.length := by
          cases pending with
          | idle unscheduled => rfl
          | rebuilt scheduled first =>
            exact (first.length_slots images).elim id fun refitted => refitted.trans matched.symm
        obtain kept | refitted := ended.length_slots (ready_images ▸ images)
        · exact kept.trans ready_length
        · exact (refitted.trans ready_images).trans matched.symm
      · intro same
        obtain ⟨slots, fences⟩ := slots_kept images pending ended same
        exact (renewed (slots ▸ same)).of_same slots fences
      · intro other rebuilt_other same
        cases rebuilt_other.symm.trans rebuilt
        exact renewed same

/-- As long as no call failed, guards are unsignaled only after held submissions, so only such a
submission can make a turn wait in vain. A rebuild within a turn that keeps the number of slots
replaces the guard of one. -/
theorem guards_of_replay {config : RenderConfig} {camera : Camera} {layout : Layout}
    {overlay : Overlay} {settings : DeviceSettings} {start after : FrameLoop MemoryDevice}
    {calls : List LoopCall} {reports : List LoopReport}
    (created : create config camera layout overlay settings.device = .ok () start)
    (replayed : replay calls start = (reports, after))
    (succeeded : ∀ report ∈ reports, report.isFailed = false) :
    (∀ slot ∈ after.slots, after.device.Issued slot.inFlight ∧
      (after.device.isSignaled slot.inFlight = false ↔ after.device.LastHeld slot.inFlight)) ∧
    (∀ moment slot waited,
      (∃ next, turn moment after = .error (.violation (.guardTimeout slot waited)) next) ↔
        ∃ ready guard, rebuildPending after = .ok () ready ∧ ready.life.isValid = true ∧
          slot = ready.slot ∧ waited = ready.guardTimeout ∧ ready.slots[slot]? = some ⟨guard⟩ ∧
          ready.device.LastHeld guard) ∧
    ((∀ fence, true ∉ after.device.submissions fence) →
      ∀ moment slot waited next,
        turn moment after ≠ .error (.violation (.guardTimeout slot waited)) next) ∧
    ∀ moment frame slot next, turn moment after = .ok (.recreated frame slot) next →
      (after.slots.length = after.device.imageCount → next.slots.length = after.slots.length) ∧
      (next.slots.length = after.slots.length → Renewed slot after.toScreen next.toScreen) ∧
      ∀ ready, rebuildPending after = .ok () ready → next.slots.length = ready.slots.length →
        Renewed slot ready.toScreen next.toScreen := by
  have created := created_of_create created
  let motive (reports : List LoopReport) (loop : FrameLoop MemoryDevice) : Prop :=
    loop.Agrees ∧
      ((∀ report ∈ reports, report.isFailed = false) → loop.toScreen.Guarded none)
  have step : ∀ call ∈ calls, ∀ reports loop, motive reports loop →
      motive (reports ++ [(call.run loop).1]) (call.run loop).2 := by
    rintro call _ reports loop ⟨agrees, guarded⟩
    refine ⟨agrees.run call, fun succeeded => ?_⟩
    have before : ∀ report ∈ reports, report.isFailed = false :=
      fun report member => succeeded report (List.mem_append_left _ member)
    have last : (call.run loop).1.isFailed = false :=
      succeeded _ (List.mem_append_right _ List.mem_cons_self)
    exact guarded_run agrees (guarded before) last
  have started : motive [] start :=
    ⟨agrees_of_created settings.imageCount_pos created, fun _ => guarded_of_created created⟩
  obtain ⟨agrees, guarded⟩ : motive reports after := replay_keeps step started replayed
  have guarded := guarded succeeded
  refine ⟨?_, turn_guardTimeout_iff agrees guarded, ?_, ?_⟩
  · intro slot member
    obtain ⟨index, found⟩ := List.getElem?_of_mem member
    exact ⟨guarded.issued slot member, guarded.unsignaled_iff index slot found nofun⟩
  · intro none_held moment slot waited next failed
    obtain ⟨ready, guard, rebuilt, _, _, _, _, held⟩ :=
      (turn_guardTimeout_iff agrees guarded moment slot waited).mp ⟨next, failed⟩
    have pending := PendingEnd.of_run rebuilt
    have same : ready.device.submissions guard = after.device.submissions guard :=
      pending.preparesTo.idleTo.submissions_eq
    rw [MemoryDevice.LastHeld, same] at held
    exact none_held guard (List.mem_of_getLast? held)
  · intro moment frame slot next ran
    exact turn_recreated_slots agrees guarded ran

/-- One submission of four is held; its guard stays unsignaled. -/
theorem guards_of_held_submission :
    ∃ start reports after,
      create {} {} ⟨2, 2⟩ {} (DeviceSettings.device { window := ⟨4, 3⟩ }) = .ok () start ∧
        replay
            [.turn ⟨0, History.create .origin ⟨2, 2⟩ (by decide), .identity⟩,
              .configure { window := ⟨4, 3⟩, holdSubmissions := true },
              .turn ⟨0, History.create .origin ⟨2, 2⟩ (by decide), .identity⟩,
              .configure { window := ⟨4, 3⟩, outOfDateOn := [3] },
              .turn ⟨0, History.create .origin ⟨2, 2⟩ (by decide), .identity⟩,
              .turn ⟨0, History.create .origin ⟨2, 2⟩ (by decide), .identity⟩] start =
          (reports, after) ∧
        reports =
          [.turned (.presented 0 0), .done, .turned (.presented 1 1), .done,
            .turned (.presented 2 2), .turned (.recreated 3 0)] ∧
        after.slots = [⟨4⟩, ⟨2⟩, ⟨3⟩] ∧ after.device.isSignaled 2 = false ∧
        after.device.LastHeld 2 := by
  have created : create {} {} ⟨2, 2⟩ {} (DeviceSettings.device { window := ⟨4, 3⟩ }) =
      .ok () (leftBy (create {} {} ⟨2, 2⟩ {}
        (DeviceSettings.device { window := ⟨4, 3⟩ }))) := rfl
  have guards := fun calls => guards_of_replay created (Prod.eta (replay calls _)).symm
  refine ⟨_, _, _, created, (Prod.eta _).symm, ?_, ?_, ?_, ?_⟩
  · decide +kernel
  · decide +kernel
  · decide +kernel
  · refine ((guards _ ?_).1 ⟨2⟩ ?_).2.mp ?_
    · decide +kernel
    · decide +kernel
    · decide +kernel

end FrameLoop

end Waterfall

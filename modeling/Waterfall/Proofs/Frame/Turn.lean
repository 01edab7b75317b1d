import Waterfall.Proofs.Frame.Draw
import Waterfall.Proofs.Surface.Rebuild

/-! # The ends of a turn

A turn begins with the rebuild that is scheduled, if there is one. Without a surface it ends there.
Otherwise it waits for the guard of the current slot, resets it and asks for an image; what follows
depends on the answer. Each end is given with the loop it leaves.
-/

namespace Waterfall

namespace FrameLoop

/-- A loop that can take a frame: its surface is live and has a next image, and there is a guard. -/
structure Serves (loop : FrameLoop MemoryDevice) (resources : SurfaceResources) (guard : FenceId) :
    Prop where
  valid : loop.life.state = .valid
  live : loop.life.resources = some resources
  image_lt : resources.swapchain.nextImage < resources.imageCount
  guarded : loop.slots[loop.slot]? = some ⟨guard⟩

/-- How the rebuild at the beginning of a turn ends. -/
inductive PendingEnd (loop : FrameLoop MemoryDevice) :
    EStateM.Result Fault (FrameLoop MemoryDevice) Unit → Prop
  | idle (unscheduled : loop.life.pending = none) : PendingEnd loop (.ok () loop)
  | rebuilt {extent : Extent} {state : SurfaceState} {screen : Screen MemoryDevice}
      (scheduled : loop.life.pending = some extent)
      (ended : Screen.RebuildEnd extent none loop.toScreen (.ok state screen)) :
      PendingEnd loop
        (.ok () { loop with toScreen := screen, slot := loop.slot % screen.slots.length })
  | failed {extent : Extent} {fault : Fault} {screen : Screen MemoryDevice}
      (scheduled : loop.life.pending = some extent)
      (ended : Screen.RebuildEnd extent none loop.toScreen (.error fault screen)) :
      PendingEnd loop (.error fault { loop with toScreen := screen })

/-- The loop after it reset the guard and asked for an image. -/
def asked (guard : FenceId) (loop : FrameLoop MemoryDevice) : FrameLoop MemoryDevice :=
  { loop with device := loop.device.asked guard loop.guardTimeout loop.acquireTimeout }

/-- The loop after it was handed an image. -/
def supplied (guard : FenceId) (resources : SurfaceResources) (loop : FrameLoop MemoryDevice) :
    FrameLoop MemoryDevice :=
  { loop.asked guard with life := { loop.life with resources := some resources.handedOut } }

/-- How a turn goes on once it asked for an image. -/
inductive AskedEnd (moment : Moment) (loop : FrameLoop MemoryDevice) (resources : SurfaceResources)
    (guard : FenceId) : EStateM.Result Fault (FrameLoop MemoryDevice) TurnOutcome → Prop
  | recreated {state : SurfaceState} {screen : Screen MemoryDevice}
      (outdated : loop.device.acquires ∈ loop.device.outOfDateOn)
      (ended : Screen.RebuildEnd loop.windowExtent (some loop.slot) (loop.asked guard).toScreen
        (.ok state screen)) :
      AskedEnd moment loop resources guard
        (.ok (.recreated loop.frame loop.slot)
          { loop with
            toScreen := screen
            frame := loop.frame + 1
            slot := (loop.slot + 1) % screen.slots.length })
  | recreateFailed {fault : Fault} {screen : Screen MemoryDevice}
      (outdated : loop.device.acquires ∈ loop.device.outOfDateOn)
      (ended : Screen.RebuildEnd loop.windowExtent (some loop.slot) (loop.asked guard).toScreen
        (.error fault screen)) :
      AskedEnd moment loop resources guard (.error fault { loop with toScreen := screen })
  | acquireTimeout (current : loop.device.acquires ∉ loop.device.outOfDateOn)
      (late : loop.device.acquires ∈ loop.device.timeoutOn) :
      AskedEnd moment loop resources guard
        (.error (.violation (.acquireTimeout loop.acquireTimeout)) (loop.asked guard))
  /-- The board's points cannot be counted. -/
  | uncounted {cause : Breach} (current : loop.device.acquires ∉ loop.device.outOfDateOn)
      (prompt : loop.device.acquires ∉ loop.device.timeoutOn)
      (uncounted : loop.uniformsFor moment resources = .error cause) :
      AskedEnd moment loop resources guard
        (.error (.breach cause) ((loop.supplied guard resources).loaded moment))
  | presented {uniforms : Uniforms} (notices : List Notice)
      (current : loop.device.acquires ∉ loop.device.outOfDateOn)
      (prompt : loop.device.acquires ∉ loop.device.timeoutOn)
      (counted : loop.uniformsFor moment resources = .ok uniforms) :
      AskedEnd moment loop resources guard
        (.ok (.presented loop.frame loop.slot)
          { (loop.supplied guard resources).drawn moment resources.handedOut uniforms
              resources.swapchain.nextImage guard with
            notices })

/-- How a turn ends. -/
inductive TurnEnd (moment : Moment) (loop : FrameLoop MemoryDevice) :
    EStateM.Result Fault (FrameLoop MemoryDevice) TurnOutcome → Prop
  | rebuildFailed {fault : Fault} {after : FrameLoop MemoryDevice}
      (failed : rebuildPending loop = .error fault after) : TurnEnd moment loop (.error fault after)
  | skipped {ready : FrameLoop MemoryDevice} (rebuilt : rebuildPending loop = .ok () ready)
      (invalid : ready.life.isValid = false) : TurnEnd moment loop (.ok .skipped ready)
  | guardTimeout {ready : FrameLoop MemoryDevice} {resources : SurfaceResources} {guard : FenceId}
      (rebuilt : rebuildPending loop = .ok () ready) (serves : ready.Serves resources guard)
      (unsignaled : ready.device.isSignaled guard = false) :
      TurnEnd moment loop
        (.error (.violation (.guardTimeout ready.slot ready.guardTimeout))
          { ready with device := ready.device.awaited guard ready.guardTimeout })
  | asked {ready : FrameLoop MemoryDevice} {resources : SurfaceResources} {guard : FenceId}
      {result : EStateM.Result Fault (FrameLoop MemoryDevice) TurnOutcome}
      (rebuilt : rebuildPending loop = .ok () ready) (serves : ready.Serves resources guard)
      (signaled : ready.device.isSignaled guard = true)
      (ended : AskedEnd moment ready resources guard result) : TurnEnd moment loop result

variable {loop : FrameLoop MemoryDevice} {resources : SurfaceResources} {guard : FenceId}

theorem rebuildPending_end (loop : FrameLoop MemoryDevice) :
    PendingEnd loop (rebuildPending loop) := by
  unfold rebuildPending
  rw [get_bind]
  cases scheduled : loop.life.pending with
  | none => exact .idle scheduled
  | some extent =>
    rw [then_apply (by rfl)]
    have ended := Screen.recreatePending_end scheduled
    obtain ⟨result, ran⟩ : ∃ result, Screen.recreatePending loop.toScreen = result := ⟨_, rfl⟩
    rw [ran] at ended
    cases result with
    | ok state screen =>
      rw [bind_of_ok (onScreen_of_ok ran)]
      exact .rebuilt scheduled ended
    | error fault screen =>
      rw [bind_of_error (onScreen_of_error ran)]
      exact .failed scheduled ended

theorem PendingEnd.of_run {result : EStateM.Result Fault (FrameLoop MemoryDevice) Unit}
    (ran : rebuildPending loop = result) : PendingEnd loop result :=
  ran ▸ rebuildPending_end loop

/-- The rebuild at the beginning of a turn draws nothing. -/
theorem PendingEnd.preparesTo {result : EStateM.Result Fault (FrameLoop MemoryDevice) Unit}
    (ended : PendingEnd loop result) : loop.device.PreparesTo (leftBy result).device := by
  cases ended with
  | idle unscheduled => exact .refl _
  | rebuilt scheduled ended => exact ended.preparesTo
  | failed scheduled ended => exact ended.preparesTo

theorem Serves.slot_lt (serves : loop.Serves resources guard) : loop.slot < loop.slots.length :=
  (List.getElem?_eq_some_iff.mp serves.guarded).1

theorem acquire_eq {answer : Acquired} {swapchain : Swapchain} {device : MemoryDevice}
    (serves : loop.Serves resources guard) (timeout : Duration)
    (ran : MemoryDevice.acquire resources.swapchain timeout loop.device =
      .ok (answer, swapchain) device) :
    onScreen (Screen.acquire timeout) loop = .ok answer
      { loop with
        device
        life := { loop.life with resources := some { resources with swapchain } } } := by
  refine onScreen_of_ok ?_
  unfold Screen.acquire
  rw [get_bind, get_bind, serves.valid, serves.live]
  exact Screen.onSwapchain_of_ok ran

/-- An answer that leaves the images as they are changes the device only. -/
theorem acquire_eq_of_same {answer : Acquired} {device : MemoryDevice}
    (serves : loop.Serves resources guard) (timeout : Duration)
    (ran : MemoryDevice.acquire resources.swapchain timeout loop.device =
      .ok (answer, resources.swapchain) device) :
    onScreen (Screen.acquire timeout) loop = .ok answer { loop with device } := by
  have same : { loop.life with resources := some resources } = loop.life := by
    rw [← serves.live]
  rw [acquire_eq serves timeout ran]
  exact congrArg (fun life => EStateM.Result.ok answer { loop with device, life }) same

/-- A turn that was told that the surface is out of date ends with a rebuild. -/
theorem rebuildOutOfDate_end (moment : Moment) (slot_lt : loop.slot < loop.slots.length)
    (outdated : loop.device.acquires ∈ loop.device.outOfDateOn) :
    AskedEnd moment loop resources guard
      (rebuildOutOfDate loop.frame loop.slot (loop.asked guard)) := by
  have in_range : ∀ index ∈ some loop.slot, index < loop.slots.length := by
    simpa using slot_lt
  let reported : Screen MemoryDevice :=
    { (loop.asked guard).toScreen with
      notices := loop.notices ++ [.outOfDateAt loop.frame loop.windowExtent] }
  have ended : Screen.RebuildEnd loop.windowExtent (some loop.slot) (loop.asked guard).toScreen
      (Screen.recreate loop.windowExtent (some loop.slot) reported) :=
    .of_notices (Screen.recreate_end _ _ in_range)
  obtain ⟨result, ran⟩ : ∃ result,
    Screen.recreate loop.windowExtent (some loop.slot) reported = result := ⟨_, rfl⟩
  rw [ran] at ended
  unfold rebuildOutOfDate
  rw [get_bind, bind_of_ok (report_eq _ _)]
  cases result with
  | ok state screen =>
    rw [bind_of_ok (onScreen_of_ok ran)]
    exact .recreated outdated ended
  | error fault screen =>
    rw [bind_of_error (onScreen_of_error ran)]
    exact .recreateFailed outdated ended

/-- A turn that was handed an image draws it. -/
theorem draw_end (moment : Moment) (serves : loop.Serves resources guard)
    (current : loop.device.acquires ∉ loop.device.outOfDateOn)
    (prompt : loop.device.acquires ∉ loop.device.timeoutOn) :
    AskedEnd moment loop resources guard
      (draw moment loop.frame loop.slot resources.swapchain.nextImage
        (loop.supplied guard resources)) := by
  have live : (loop.supplied guard resources).life.resources = some resources.handedOut := rfl
  have same : (loop.supplied guard resources).uniformsFor moment resources.handedOut =
      loop.uniformsFor moment resources := rfl
  cases counted : loop.uniformsFor moment resources with
  | error cause =>
    have failed := compose_of_error resources.swapchain.nextImage live (same.trans counted)
    have ended : draw moment loop.frame loop.slot resources.swapchain.nextImage
        (loop.supplied guard resources) = _ := bind_of_error failed
    rw [ended]
    exact .uncounted current prompt counted
  | ok uniforms =>
    obtain ⟨notices, ended⟩ :=
      draw_of_ok live (same.trans counted) serves.image_lt serves.guarded
    have drawn : draw moment loop.frame loop.slot resources.swapchain.nextImage
        (loop.supplied guard resources) = _ := ended
    rw [drawn]
    exact .presented notices current prompt counted

theorem resetFence_eq (guard : FenceId) (loop : FrameLoop MemoryDevice) :
    onScreen (Screen.modifyDevice (GraphicsDevice.resetFence guard)) loop =
      .ok () { loop with device := MemoryDevice.resetFence guard loop.device } := rfl

/-- What a turn does once the guard was signaled. -/
theorem turn_of_signaled (moment : Moment) (serves : loop.Serves resources guard) :
    AskedEnd moment loop resources guard ((do
      onScreen (Screen.modifyDevice (GraphicsDevice.resetFence guard))
      let acquireTimeout := (← get).acquireTimeout
      match ← onScreen (Screen.acquire acquireTimeout) with
      | .ready image => draw moment loop.frame loop.slot image
      | .outOfDate => rebuildOutOfDate loop.frame loop.slot
      | .notReady =>
        onScreen (Screen.replaceGuard loop.slot)
        return .skipped
      | .timeout => throw (.violation (.acquireTimeout acquireTimeout)) :
        LoopM MemoryDevice TurnOutcome)
      { loop with device := loop.device.awaited guard loop.guardTimeout }) := by
  let free : FrameLoop MemoryDevice :=
    { loop with
      device := MemoryDevice.resetFence guard (loop.device.awaited guard loop.guardTimeout) }
  have free_serves : free.Serves resources guard :=
    ⟨serves.valid, serves.live, serves.image_lt, serves.guarded⟩
  rw [bind_of_ok (resetFence_eq guard _), get_bind]
  by_cases outdated : loop.device.acquires ∈ loop.device.outOfDateOn
  · have answered : onScreen (Screen.acquire loop.acquireTimeout) free =
        .ok .outOfDate (loop.asked guard) := by
      rw [asked, ← MemoryDevice.acquired_eq_asked]
      exact acquire_eq_of_same free_serves _ (MemoryDevice.acquire_of_outOfDate outdated)
    rw [bind_of_ok answered]
    exact rebuildOutOfDate_end moment serves.slot_lt outdated
  by_cases late : loop.device.acquires ∈ loop.device.timeoutOn
  · have answered : onScreen (Screen.acquire loop.acquireTimeout) free =
        .ok .timeout (loop.asked guard) := by
      rw [asked, ← MemoryDevice.acquired_eq_asked]
      exact acquire_eq_of_same free_serves _ (MemoryDevice.acquire_of_timeout outdated late)
    rw [bind_of_ok answered]
    exact .acquireTimeout outdated late
  · have images : resources.imageCount ≠ 0 := Nat.ne_of_gt (Nat.zero_lt_of_lt serves.image_lt)
    have answered : onScreen (Screen.acquire loop.acquireTimeout) free =
        .ok (.ready resources.swapchain.nextImage) (loop.supplied guard resources) := by
      rw [supplied, asked, ← MemoryDevice.acquired_eq_asked]
      exact acquire_eq free_serves _ (MemoryDevice.acquire_of_ready outdated late images)
    rw [bind_of_ok answered]
    exact draw_end moment serves outdated late

/-- Every turn ends in one of these ways, provided that a live surface always serves. -/
theorem turn_end (moment : Moment) (loop : FrameLoop MemoryDevice)
    (serves : ∀ ready, rebuildPending loop = .ok () ready → ready.life.isValid = true →
      ∃ resources guard, ready.Serves resources guard) :
    TurnEnd moment loop (turn moment loop) := by
  unfold turn
  obtain ⟨result, ran⟩ : ∃ result, rebuildPending loop = result := ⟨_, rfl⟩
  cases result with
  | error fault after =>
    rw [bind_of_error ran]
    exact .rebuildFailed ran
  | ok _ ready =>
    rw [bind_of_ok ran, get_bind]
    cases valid : ready.life.isValid with
    | false =>
      rw [then_apply (by rfl)]
      exact .skipped ran valid
    | true =>
      obtain ⟨resources, guard, serves⟩ := serves ready ran valid
      have waited : onDevice (GraphicsDevice.waitFence guard ready.guardTimeout) ready =
          .ok (ready.device.isSignaled guard) _ :=
        onDevice_of_ok (MemoryDevice.waitFence_eq guard ready.guardTimeout ready.device)
      rw [else_apply (by decide), get_bind, get_bind, bind_of_ok (guardOf_of_some serves.guarded),
        get_bind, bind_of_ok waited]
      cases signaled : ready.device.isSignaled guard with
      | false =>
        rw [then_apply (by rfl)]
        exact .guardTimeout ran serves signaled
      | true =>
        rw [else_apply (by decide)]
        refine .asked ran serves signaled ?_
        exact turn_of_signaled moment serves

end FrameLoop

end Waterfall

import Waterfall.Device.Memory
import Waterfall.Proofs.Operation

/-! # Building a surface on a device in memory

A build creates seven resources and records the scene. It fails in two ways only: the surface is
refused, as often as the device was told to, or there are more command buffers than can be stored.
An attempt that is refused is repeated at the last good size until the attempts are used up.
-/

namespace Waterfall

namespace CallRecord

/-- A call that was not refused. -/
def accepted (call : DeviceCall) : CallRecord := ⟨call, false⟩

/-- The creation of a surface that was refused. -/
def refusedSurface (extent : Extent) : CallRecord := ⟨.create (.surface extent), true⟩

/-- Whether a call draws to the surface. -/
def draws (record : CallRecord) : Bool :=
  match record.call with
  | .acquire _ | .submit _ _ _ _ | .present _ => true
  | _ => false

/-- None of the calls draws to the surface. -/
def Idle (calls : List CallRecord) : Prop := ∀ record ∈ calls, record.draws = false

theorem idle_nil : Idle [] := nofun

theorem Idle.cons {record : CallRecord} {rest : List CallRecord} (first : record.draws = false)
    (others : Idle rest) : Idle (record :: rest) := by
  intro other member
  obtain rfl | member := List.mem_cons.mp member
  · exact first
  · exact others other member

theorem Idle.append {first second : List CallRecord} (before : Idle first) (after : Idle second) :
    Idle (first ++ second) := by
  intro record member
  obtain member | member := List.mem_append.mp member
  · exact before record member
  · exact after record member

theorem idle_map {α : Type} {make : α → CallRecord} (list : List α)
    (idle : ∀ item, (make item).draws = false) : Idle (list.map make) := by
  intro record member
  obtain ⟨item, _, rfl⟩ := List.mem_map.mp member
  exact idle item

end CallRecord

namespace MemoryDevice

/-- The device after calls that prepare a surface and its frame slots: they created `guards`
signaled fences, and `refused` of them could not create a surface. -/
def prepare (added : List CallRecord) (guards refused : Nat) (device : MemoryDevice) :
    MemoryDevice :=
  { device with
    calls := device.calls ++ added
    fences := device.fences ++ List.replicate guards true
    failingBuilds := device.failingBuilds - refused }

section

variable (added more : List CallRecord) (guards refused newGuards newRefused : Nat)
  (device : MemoryDevice)

@[simp] theorem fences_prepare :
    (device.prepare added guards refused).fences = device.fences ++ List.replicate guards true :=
  rfl

@[simp] theorem failingBuilds_prepare :
    (device.prepare added guards refused).failingBuilds = device.failingBuilds - refused := rfl

@[simp] theorem imageCount_prepare :
    (device.prepare added guards refused).imageCount = device.imageCount := rfl

@[simp] theorem prepare_nil : device.prepare [] 0 0 = device := by
  simp only [prepare, List.append_nil, List.replicate_zero, Nat.sub_zero]

@[simp] theorem prepare_prepare :
    (device.prepare added guards refused).prepare more newGuards newRefused =
      device.prepare (added ++ more) (guards + newGuards) (refused + newRefused) := by
  simp only [prepare, List.append_assoc, List.replicate_append_replicate, Nat.sub_sub]

theorem note_eq_prepare (call : DeviceCall) :
    device.note call = device.prepare [.accepted call] 0 0 := by
  simp only [note, prepare, List.replicate_zero, List.append_nil, Nat.sub_zero,
    CallRecord.accepted]

theorem discard_eq_prepare (kind : ResourceKind) :
    GraphicsDevice.discard kind device = device.prepare [.accepted (.discard kind)] 0 0 :=
  note_eq_prepare device _

theorem recordScene_eq (scene : Scene) :
    GraphicsDevice.recordScene scene device =
      .ok () (device.prepare [.accepted (.recordScene scene)] 0 0) := by
  rw [← note_eq_prepare]
  rfl

end

/-- What the device answers when it refuses to create a surface. -/
def refusal : Failure := .resource "surface creation refused"

variable {device : MemoryDevice} {extent : Extent} {scene : Scene}

/-- The device does not reject a creation. -/
def Accepts (device : MemoryDevice) : Creation → Prop
  | .surface _ => device.failingBuilds = 0
  | .commands count => count < Word.storageLimit
  | _ => True

theorem create_of_accepts {creation : Creation} (accepts : device.Accepts creation) :
    create creation device = .ok () (device.prepare [.accepted (.create creation)] 0 0) := by
  rw [← note_eq_prepare]
  cases creation with
  | surface extent =>
    have none : ¬0 < device.failingBuilds := Nat.not_lt.mpr (Nat.le_of_eq accepts)
    rw [create, get_bind, if_neg none]
    rfl
  | commands count =>
    have stored : Word.reserve count commandBytes = .ok () := if_pos (by
      rw [commandBytes, Nat.mul_one]
      exact accepts)
    rw [create, modify_bind, stored]
    rfl
  | images => rfl
  | depth => rfl
  | target => rfl
  | pipeline scene => rfl
  | framebuffers => rfl

theorem create_surface_of_pos (failing : 0 < device.failingBuilds) :
    create (.surface extent) device =
      .error (.failure refusal)
        (device.prepare [.refusedSurface extent] 0 1) := by
  rw [create, get_bind, if_pos failing]
  simp only [prepare, List.replicate_zero, List.append_nil]
  rfl

theorem create_commands_of_le {count : Nat} (oversized : Word.storageLimit ≤ count) :
    create (.commands count) device =
      .error (.breach .overflow)
        (device.prepare
          [.accepted (.create (.commands count)), .accepted (.discard .commands)] 0 0) := by
  have unfit : Word.reserve count commandBytes = .error .overflow := if_neg (by
    rw [commandBytes, Nat.mul_one]
    exact Nat.not_lt.mpr oversized)
  have tried : (device.prepare
      [.accepted (.create (.commands count)), .accepted (.discard .commands)] 0 0) =
        (device.note (.create (.commands count))).note (.discard .commands) := by
    simp [note_eq_prepare]
  rw [create, modify_bind, unfit, tried]
  rfl

end MemoryDevice

namespace SurfaceResources

open MemoryDevice (refusal)

variable {device : MemoryDevice} {extent : Extent} {scene : Scene}

/-- The records of creations that succeeded. -/
def creations (creations : List Creation) : List CallRecord :=
  creations.map fun creation => .accepted (.create creation)

/-- The records of the releases of created resources, the last one first. -/
def releases (creations : List Creation) : List CallRecord :=
  creations.reverse.map fun creation => .accepted (.discard creation.kind)

theorem idle_creations (list : List Creation) : CallRecord.Idle (creations list) :=
  CallRecord.idle_map list fun _ => rfl

theorem idle_releases (list : List Creation) : CallRecord.Idle (releases list) :=
  CallRecord.idle_map _ fun _ => rfl

/-- Creations that are accepted are made one after the other before the last step. -/
theorem createAll_of_accepts {list : List Creation} {finish : DeviceM MemoryDevice Unit}
    {after : MemoryDevice} (accepts : ∀ creation ∈ list, device.Accepts creation)
    (finished : finish (device.prepare (creations list) 0 0) = .ok () after) :
    createAll list finish device = .ok () after := by
  induction list generalizing device with
  | nil =>
    rw [createAll, ← finished]
    simp [MemoryDevice.prepare, creations]
  | cons creation rest ih =>
    have created := MemoryDevice.create_of_accepts (accepts creation List.mem_cons_self)
    have rest_accepts : ∀ other ∈ rest,
        (device.prepare [.accepted (.create creation)] 0 0).Accepts other :=
      fun other member => accepts other (List.mem_cons_of_mem _ member)
    have ran := ih rest_accepts (by rwa [MemoryDevice.prepare_prepare])
    exact (bind_of_ok created).trans (by rw [undoing, ran])

/-- A creation that is rejected undoes those before it. -/
theorem createAll_of_rejected {list rest : List Creation} {creation : Creation}
    {finish : DeviceM MemoryDevice Unit} {fault : Fault} {calls : List CallRecord}
    (accepts : ∀ creation ∈ list, device.Accepts creation)
    (rejects : ∀ before : MemoryDevice,
      MemoryDevice.create creation before = .error fault (before.prepare calls 0 0)) :
    createAll (list ++ creation :: rest) finish device =
      .error fault (device.prepare (creations list ++ (calls ++ releases list)) 0 0) := by
  induction list generalizing device with
  | nil => exact (bind_of_error (rejects device)).trans (by simp [creations, releases])
  | cons first others ih =>
    have created := MemoryDevice.create_of_accepts (accepts first List.mem_cons_self)
    have others_accept : ∀ other ∈ others,
        (device.prepare [.accepted (.create first)] 0 0).Accepts other :=
      fun other member => accepts other (List.mem_cons_of_mem _ member)
    rw [List.cons_append]
    refine (bind_of_ok created).trans ?_
    rw [undoing, ih others_accept]
    dsimp only
    rw [MemoryDevice.discard_eq_prepare, MemoryDevice.prepare_prepare,
      MemoryDevice.prepare_prepare]
    simp [creations, releases]

/-- The resources that a build makes. -/
def built (extent : Extent) (scene : Scene) (imageCount : Nat) : SurfaceResources :=
  { extent, scene, swapchain := { imageCount } }

/-- The calls of a build that succeeds. -/
def buildCalls (extent : Extent) (scene : Scene) (imageCount : Nat) : List CallRecord :=
  creations (plan extent scene imageCount) ++ [.accepted (.recordScene scene)]

/-- The calls of a build that ends at its command buffers. -/
def abandonedCalls (extent : Extent) (scene : Scene) (imageCount : Nat) : List CallRecord :=
  creations (plan extent scene imageCount) ++ releases (plan extent scene imageCount)

theorem idle_buildCalls (extent : Extent) (scene : Scene) (imageCount : Nat) :
    CallRecord.Idle (buildCalls extent scene imageCount) :=
  (idle_creations _).append (.cons rfl CallRecord.idle_nil)

theorem idle_abandonedCalls (extent : Extent) (scene : Scene) (imageCount : Nat) :
    CallRecord.Idle (abandonedCalls extent scene imageCount) :=
  (idle_creations _).append (idle_releases _)

theorem build_of_ready (ready : device.failingBuilds = 0)
    (fits : device.imageCount < Word.storageLimit) :
    build extent scene device = .ok (built extent scene device.imageCount)
      (device.prepare (buildCalls extent scene device.imageCount) 0 0) := by
  have accepts : ∀ creation ∈ plan extent scene device.imageCount, device.Accepts creation := by
    simp [plan, MemoryDevice.Accepts, ready, fits]
  have recorded : (GraphicsDevice.recordScene scene : DeviceM MemoryDevice Unit)
      (device.prepare (creations (plan extent scene device.imageCount)) 0 0) =
        .ok () (device.prepare (buildCalls extent scene device.imageCount) 0 0) := by
    rw [MemoryDevice.recordScene_eq, MemoryDevice.prepare_prepare]
    rfl
  rw [build, get_bind]
  exact bind_of_ok (createAll_of_accepts accepts recorded)

theorem build_of_failing (failing : 0 < device.failingBuilds) :
    build extent scene device =
      .error (.failure refusal)
        (device.prepare [.refusedSurface extent] 0 1) := by
  have refused : createAll (plan extent scene device.imageCount)
      (GraphicsDevice.recordScene scene) device =
        .error (.failure refusal)
          (device.prepare [.refusedSurface extent] 0 1) :=
    bind_of_error (MemoryDevice.create_surface_of_pos failing)
  rw [build, get_bind]
  exact bind_of_error refused

theorem build_of_oversized (ready : device.failingBuilds = 0)
    (oversized : Word.storageLimit ≤ device.imageCount) :
    build extent scene device = .error (.breach .overflow)
      (device.prepare (abandonedCalls extent scene device.imageCount) 0 0) := by
  have accepts : ∀ creation ∈
      [Creation.surface extent, .images, .depth, .target, .pipeline scene, .framebuffers],
      device.Accepts creation := by
    simp [MemoryDevice.Accepts, ready]
  have rejected : createAll (plan extent scene device.imageCount)
      (GraphicsDevice.recordScene scene) device = .error (.breach .overflow)
        (device.prepare (abandonedCalls extent scene device.imageCount) 0 0) :=
    createAll_of_rejected accepts fun _ => MemoryDevice.create_commands_of_le oversized
  rw [build, get_bind]
  exact bind_of_error rejected

end SurfaceResources

namespace Screen

open MemoryDevice (refusal)
open SurfaceResources (build built buildCalls abandonedCalls)

/-- The records of the first `count` attempts, all of them refused. -/
def refusals (sizes : Nat → Extent) (count : Nat) : List CallRecord :=
  (List.range count).map fun attempt => .refusedSurface (sizes attempt)

theorem idle_refusals (sizes : Nat → Extent) (count : Nat) :
    CallRecord.Idle (refusals sizes count) :=
  CallRecord.idle_map _ fun _ => rfl

theorem refusals_succ (sizes : Nat → Extent) (count : Nat) :
    refusals sizes (count + 1) =
      .refusedSurface (sizes 0) :: refusals (fun attempt => sizes (attempt + 1)) count := by
  rw [refusals, List.range_succ_eq_map, List.map_cons, List.map_map]
  rfl

/-- How up to `attempts` attempts to build the surface end, after `tried` attempts that were
refused. The sizes are those of the attempts that are left. -/
inductive AttemptsEnd (screen : Screen MemoryDevice) (sizes : Nat → Extent) (tried attempts : Nat) :
    EStateM.Result Fault (Screen MemoryDevice) (Extent × SurfaceResources) → Prop
  /-- The first attempt that is not refused succeeds. -/
  | built (notices : List Notice) (enough : screen.device.failingBuilds < attempts)
      (fits : screen.device.imageCount < Word.storageLimit) :
      AttemptsEnd screen sizes tried attempts
        (.ok (sizes screen.device.failingBuilds,
            built (sizes screen.device.failingBuilds) screen.life.scene screen.device.imageCount)
          { screen with
            device := screen.device.prepare
              (refusals sizes screen.device.failingBuilds ++
                buildCalls (sizes screen.device.failingBuilds) screen.life.scene
                  screen.device.imageCount)
              0 screen.device.failingBuilds
            notices })
  /-- All attempts are refused. -/
  | exhausted (notices : List Notice) (few : attempts ≤ screen.device.failingBuilds) :
      AttemptsEnd screen sizes tried attempts
        (.error (.failure (.recreateExhausted (tried + attempts) refusal.text))
          { screen with
            device := screen.device.prepare (refusals sizes attempts) 0 attempts
            notices })
  /-- The first attempt that is not refused finds no room for the command buffers. -/
  | oversized (notices : List Notice) (enough : screen.device.failingBuilds < attempts)
      (unfit : Word.storageLimit ≤ screen.device.imageCount) :
      AttemptsEnd screen sizes tried attempts
        (.error (.breach .overflow)
          { screen with
            device := screen.device.prepare
              (refusals sizes screen.device.failingBuilds ++
                abandonedCalls (sizes screen.device.failingBuilds) screen.life.scene
                  screen.device.imageCount)
              0 screen.device.failingBuilds
            notices })

variable {screen : Screen MemoryDevice} {sizes : Nat → Extent} {tried attempts : Nat}
  {result : EStateM.Result Fault (Screen MemoryDevice) (Extent × SurfaceResources)}

/-- Earlier notices do not matter. -/
theorem AttemptsEnd.of_notices {notices : List Notice}
    (ended : AttemptsEnd { screen with notices } sizes tried attempts result) :
    AttemptsEnd screen sizes tried attempts result := by
  cases ended with
  | built notices enough fits => exact .built notices enough fits
  | exhausted notices few => exact .exhausted notices few
  | oversized notices enough unfit => exact .oversized notices enough unfit

/-- A refused attempt is the first one of more. -/
theorem AttemptsEnd.of_refused (failing : 0 < screen.device.failingBuilds)
    (rest : AttemptsEnd
      { screen with device := screen.device.prepare [.refusedSurface (sizes 0)] 0 1 }
      (fun attempt => sizes (attempt + 1)) (tried + 1) attempts result) :
    AttemptsEnd screen sizes tried (attempts + 1) result := by
  obtain ⟨count, failing_eq⟩ := Nat.exists_eq_add_one.mpr failing
  cases rest with
  | built notices enough fits =>
    have more : screen.device.failingBuilds < attempts + 1 := by
      rw [MemoryDevice.failingBuilds_prepare] at enough
      omega
    have ended : AttemptsEnd screen sizes tried (attempts + 1) _ := .built notices more fits
    simpa [failing_eq, refusals_succ, Nat.add_comm 1] using ended
  | exhausted notices few =>
    have more : attempts + 1 ≤ screen.device.failingBuilds := by
      rw [MemoryDevice.failingBuilds_prepare] at few
      omega
    have ended : AttemptsEnd screen sizes tried (attempts + 1) _ := .exhausted notices more
    simpa [refusals_succ, Nat.add_comm 1, Nat.add_assoc] using ended
  | oversized notices enough unfit =>
    have more : screen.device.failingBuilds < attempts + 1 := by
      rw [MemoryDevice.failingBuilds_prepare] at enough
      omega
    have ended : AttemptsEnd screen sizes tried (attempts + 1) _ := .oversized notices more unfit
    simpa [failing_eq, refusals_succ, Nat.add_comm 1] using ended

/-- What one attempt does: it builds the surface, is refused, or finds no room. -/
theorem tryBuild_cases (screen : Screen MemoryDevice) (extent : Extent) :
    (screen.device.failingBuilds = 0 ∧ screen.device.imageCount < Word.storageLimit ∧
      tryBuild extent screen =
        .ok (.ok (built extent screen.life.scene screen.device.imageCount))
          { screen with
            device := screen.device.prepare
              (buildCalls extent screen.life.scene screen.device.imageCount) 0 0 }) ∨
    (0 < screen.device.failingBuilds ∧
      tryBuild extent screen = .ok (.error refusal)
        { screen with device := screen.device.prepare [.refusedSurface extent] 0 1 }) ∨
    (screen.device.failingBuilds = 0 ∧ Word.storageLimit ≤ screen.device.imageCount ∧
      tryBuild extent screen = .error (.breach .overflow)
        { screen with
          device := screen.device.prepare
            (abandonedCalls extent screen.life.scene screen.device.imageCount) 0 0 }) := by
  obtain ready | failing := Nat.eq_zero_or_pos screen.device.failingBuilds
  · obtain fits | unfit := Nat.lt_or_ge screen.device.imageCount Word.storageLimit
    · refine .inl ⟨ready, fits, ?_⟩
      rw [tryBuild, onDevice_of_ok (SurfaceResources.build_of_ready ready fits)]
    · refine .inr (.inr ⟨ready, unfit, ?_⟩)
      rw [tryBuild, onDevice_of_error (SurfaceResources.build_of_oversized ready unfit)]
  · refine .inr (.inl ⟨failing, ?_⟩)
    rw [tryBuild, onDevice_of_error (SurfaceResources.build_of_failing failing)]

/-- An attempt that is not refused is the last one. -/
theorem AttemptsEnd.of_tryBuild {retry : Failure → ScreenM MemoryDevice (Extent × SurfaceResources)}
    (refused : 0 < screen.device.failingBuilds →
      AttemptsEnd screen sizes tried (attempts + 1) (retry refusal
        { screen with device := screen.device.prepare [.refusedSurface (sizes 0)] 0 1 })) :
    AttemptsEnd screen sizes tried (attempts + 1) ((do
      match ← tryBuild (sizes 0) with
      | .ok resources => return (sizes 0, resources)
      | .error cause => retry cause) screen) := by
  obtain ⟨ready, fits, ran⟩ | ⟨failing, ran⟩ | ⟨ready, unfit, ran⟩ :=
    tryBuild_cases screen (sizes 0)
  · rw [bind_of_ok ran]
    have enough : screen.device.failingBuilds < attempts + 1 := by omega
    have ended : AttemptsEnd screen sizes tried (attempts + 1) _ :=
      .built screen.notices enough fits
    simp only [ready, refusals, List.range_zero, List.map_nil, List.nil_append] at ended
    exact ended
  · rw [bind_of_ok ran]
    exact refused failing
  · rw [bind_of_error ran]
    have enough : screen.device.failingBuilds < attempts + 1 := by omega
    have ended : AttemptsEnd screen sizes tried (attempts + 1) _ :=
      .oversized screen.notices enough unfit
    simpa [ready, refusals] using ended

/-- After a refused attempt all others are made at one size. -/
theorem buildAgain_end (screen : Screen MemoryDevice) (tried : Nat) (size : Extent)
    (retries : Nat) :
    AttemptsEnd screen (fun _ => screen.life.lastGood.getD size) tried retries
      (buildAgain tried size refusal retries screen) := by
  induction retries generalizing screen tried size with
  | zero =>
    have ended : AttemptsEnd screen (fun _ => screen.life.lastGood.getD size) tried 0 _ :=
      .exhausted screen.notices (Nat.zero_le _)
    have failed : buildAgain tried size refusal 0 screen =
      .error (.failure (.recreateExhausted tried refusal.text)) screen := rfl
    rw [failed]
    simpa [refusals] using ended
  | succ retries ih =>
    have same : screen.life.lastGood.getD (screen.life.lastGood.getD size) =
        screen.life.lastGood.getD size := by
      cases screen.life.lastGood <;> rfl
    refine AttemptsEnd.of_notices (AttemptsEnd.of_tryBuild fun failing => ?_)
    refine AttemptsEnd.of_refused failing ?_
    have rest := ih
      { screen with
        device := screen.device.prepare [.refusedSurface (screen.life.lastGood.getD size)] 0 1
        notices := screen.notices ++
          [.rebuildFailed tried refusal.text (screen.life.lastGood.getD size)] }
      (tried + 1) (screen.life.lastGood.getD size)
    dsimp only at rest
    rw [same] at rest
    exact rest

/-- The size of each attempt: first the one asked for, then the last good one. -/
def attemptSize (life : SurfaceLifecycle) (extent : Extent) : Nat → Extent
  | 0 => extent
  | _ + 1 => life.lastGood.getD extent

theorem buildWithin_end (screen : Screen MemoryDevice) (attempts : Nat) (extent : Extent) :
    AttemptsEnd screen (attemptSize screen.life extent) 0 (max attempts 1)
      (buildWithin attempts extent screen) := by
  have one_more : max attempts 1 = attempts - 1 + 1 := by omega
  rw [one_more]
  exact AttemptsEnd.of_tryBuild fun failing =>
    .of_refused failing (buildAgain_end _ 1 extent (attempts - 1))

end Screen

end Waterfall

import Waterfall.Proofs.Device.Lifetimes

/-! # Calls that spare the surface's resources

Only building, releasing and changing the scene create or release a resource. All other calls of a
device in memory add entries to its record that concern none, whatever they answer.
-/

namespace Waterfall

namespace MemoryDevice

open CallRecord (Lifetimes liveAfter)

/-- Calls that neither create nor release a resource lead from one device to another. -/
structure QuietTo (device after : MemoryDevice) : Prop where
  calls : ∃ added, after.calls = device.calls ++ added ∧
    ∀ record ∈ added, record.keepsResources = true
  failingBuilds : after.failingBuilds = device.failingBuilds

variable {device middle after : MemoryDevice}

theorem QuietTo.refl (device : MemoryDevice) : device.QuietTo device :=
  ⟨⟨[], (List.append_nil _).symm, nofun⟩, rfl⟩

theorem QuietTo.of_added {added : List CallRecord} (calls : after.calls = device.calls ++ added)
    (failingBuilds : after.failingBuilds = device.failingBuilds)
    (keeps : ∀ record ∈ added, record.keepsResources = true) : device.QuietTo after :=
  ⟨⟨added, calls, keeps⟩, failingBuilds⟩

/-- What is not part of the record may change. -/
theorem QuietTo.of_same (quiet : device.QuietTo middle) (calls : after.calls = middle.calls)
    (failingBuilds : after.failingBuilds = middle.failingBuilds) : device.QuietTo after := by
  obtain ⟨added, added_eq, keeps⟩ := quiet.calls
  exact .of_added (calls.trans added_eq) (failingBuilds.trans quiet.failingBuilds) keeps

theorem QuietTo.note (quiet : device.QuietTo middle) {call : DeviceCall}
    (keeps : CallRecord.keepsResources ⟨call, false⟩ = true) :
    device.QuietTo (middle.note call) := by
  obtain ⟨added, added_eq, all_keep⟩ := quiet.calls
  have calls : (middle.note call).calls = device.calls ++ (added ++ [⟨call, false⟩]) := by
    rw [MemoryDevice.note, added_eq, List.append_assoc]
  refine .of_added calls quiet.failingBuilds ?_
  · intro record member
    obtain member | member := List.mem_append.mp member
    · exact all_keep record member
    · rw [List.mem_singleton.mp member]
      exact keeps

/-- An operation that neither creates nor releases a resource, whether it fails or not. -/
def Quiet {α : Type} (operation : DeviceM MemoryDevice α) : Prop :=
  ∀ device : MemoryDevice, Keeps (device.QuietTo ·) operation

section

variable {α : Type}

theorem quiet_note {call : DeviceCall}
    (keeps : CallRecord.keepsResources ⟨call, false⟩ = true) : Quiet (modify (note call)) :=
  fun _ => .modify fun _ quiet => quiet.note keeps

theorem quiet_modify {change : MemoryDevice → MemoryDevice}
    (calls : ∀ device, (change device).calls = device.calls)
    (failingBuilds : ∀ device, (change device).failingBuilds = device.failingBuilds) :
    Quiet (modify change) :=
  fun _ => .modify fun device quiet => quiet.of_same (calls device) (failingBuilds device)

theorem Quiet.bind {β : Type} {operation : DeviceM MemoryDevice α}
    {next : α → DeviceM MemoryDevice β} (first : Quiet operation)
    (second : ∀ value, Quiet (next value)) : Quiet (operation >>= next) :=
  fun device => .bind (first device) fun value => second value device

theorem quiet_get : Quiet get := fun _ => .get

theorem quiet_pure (value : α) : Quiet (pure value) := fun _ => .pure value

theorem quiet_throw (fault : Fault) : Quiet (throw fault : DeviceM MemoryDevice α) :=
  fun _ => .throw fault

theorem Quiet.ite {condition : Prop} [Decidable condition]
    {operation other : DeviceM MemoryDevice α} (first : Quiet operation) (second : Quiet other) :
    Quiet (if condition then operation else other) :=
  fun device => .ite (first device) (second device)

end

theorem quiet_createFence (signaled : Bool) : Quiet (createFence signaled) :=
  .bind (quiet_note rfl) fun _ =>
    .bind (quiet_modify (fun _ => rfl) fun _ => rfl) fun _ => .bind quiet_get fun _ => quiet_pure _

theorem quiet_waitFence (guard : FenceId) (timeout : Duration) : Quiet (waitFence guard timeout) :=
  .bind (quiet_note rfl) fun _ => .bind quiet_get fun _ => quiet_pure _

theorem quiet_acquire (swapchain : Swapchain) (timeout : Duration) :
    Quiet (acquire swapchain timeout) := by
  refine .bind (quiet_note rfl) fun _ => .bind quiet_get fun device => ?_
  refine .bind (quiet_modify (fun _ => rfl) fun _ => rfl) fun _ => .bind quiet_get fun _ => ?_
  refine .ite (quiet_pure _) (.bind quiet_get fun _ => .ite (quiet_pure _) ?_)
  exact .ite (quiet_throw _) (quiet_pure _)

theorem quiet_recordFrame (swapchain : Swapchain) (image : Nat) (overlay : List OverlayCommand) :
    Quiet (recordFrame swapchain image overlay) := by
  refine .bind (quiet_note rfl) fun _ => ?_
  refine .bind (quiet_modify (fun _ => rfl) fun _ => rfl) fun _ => ?_
  exact .ite (quiet_throw _) (quiet_pure _)

theorem quiet_submit (swapchain : Swapchain) (image : Nat) (guard : FenceId) :
    Quiet (submit swapchain image guard) := by
  have submitted : Quiet (modify fun device =>
      note (.submit image guard (swapchain.isRecorded image) device.holdSubmissions) device) :=
    fun _ => .modify fun _ quiet => quiet.note rfl
  have signaled : Quiet (modify fun device =>
      if device.holdSubmissions then device else setSignaled guard true device) := by
    refine quiet_modify (fun device => ?_) fun device => ?_ <;> split <;> rfl
  refine .bind submitted fun _ => .ite (quiet_throw _) (.ite (quiet_throw _) ?_)
  exact .bind signaled fun _ => quiet_pure _

theorem quiet_present (image : Nat) : Quiet (present image) :=
  .bind (quiet_note rfl) fun _ => .bind quiet_get fun _ =>
    .bind (quiet_modify (fun _ => rfl) fun _ => rfl) fun _ => .bind quiet_get fun _ => quiet_pure _

theorem quiet_uploadIndices (indices : List Nat) :
    Quiet (GraphicsDevice.uploadIndices indices) :=
  fun _ => .modify fun device quiet =>
    have noted : QuietTo _ (device.note (.uploadIndices indices.length)) := quiet.note rfl
    noted.of_same rfl rfl

theorem quiet_windowExtent : Quiet GraphicsDevice.windowExtent :=
  .bind (quiet_note rfl) fun _ => .bind quiet_get fun _ => quiet_pure _

end MemoryDevice

end Waterfall

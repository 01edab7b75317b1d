import Waterfall.Frame.Loop

/-! # Operations that keep their changes

An operation on the device, the screen or the frame loop ends with a value or a fault, and in both
cases with a state. A sequence goes on from the state that its first operation left, and an
operation of an inner part leaves the outer parts alone.
-/

namespace Waterfall

section

variable {ε σ α β : Type} {operation : EStateM ε σ α} {next : α → EStateM ε σ β} {before after : σ}

/-- The state that an operation left, whether it failed or not. -/
def leftBy : EStateM.Result ε σ α → σ
  | .ok _ after => after
  | .error _ after => after

/-- An operation that was not broken off for want of room. -/
def Roomy : EStateM.Result Fault σ α → Prop
  | .ok _ _ => True
  | .error fault _ => fault ≠ .breach .overflow

theorem bind_of_ok {value : α} (ran : operation before = .ok value after) :
    (operation >>= next) before = next value after := by
  change EStateM.bind operation next before = _
  rw [EStateM.bind, ran]

theorem bind_of_error {fault : ε} (failed : operation before = .error fault after) :
    (operation >>= next) before = .error fault after := by
  change EStateM.bind operation next before = _
  rw [EStateM.bind, failed]

@[simp] theorem pure_apply (value : α) (before : σ) :
    (pure value : EStateM ε σ α) before = .ok value before := rfl

theorem get_bind (next : σ → EStateM ε σ β) (before : σ) :
    (get >>= next) before = next before before := rfl

theorem modify_bind (change : σ → σ) (next : PUnit → EStateM ε σ β) (before : σ) :
    (modify change >>= next) before = next () (change before) := rfl

theorem then_apply {condition : Prop} [Decidable condition] {first second : EStateM ε σ α}
    (holds : condition) (before : σ) :
    (if condition then first else second) before = first before := by
  rw [if_pos holds]

theorem else_apply {condition : Prop} [Decidable condition] {first second : EStateM ε σ α}
    (fails : ¬condition) (before : σ) :
    (if condition then first else second) before = second before := by
  rw [if_neg fails]

end

section

variable {σ α β : Type} {before motive failed : σ → Prop} {operation : EStateM Fault σ α}
  {next : α → EStateM Fault σ β} {middle : α → σ → Prop} {after : β → σ → Prop}

/-- What an operation ensures when it begins in a state with a property: its value and the state it
leaves fit each other, or it fails in a state in which it may fail. Nothing is said of an operation
that was broken off for want of room. -/
def Ensures (before : σ → Prop) (operation : EStateM Fault σ α) (after : α → σ → Prop)
    (failed : σ → Prop) : Prop :=
  ∀ start, before start →
    match operation start with
    | .ok value last => after value last
    | .error fault last => fault ≠ .breach .overflow → failed last

/-- An operation keeps a property, whether it fails or not. -/
def Keeps (motive : σ → Prop) (operation : EStateM Fault σ α) : Prop :=
  Ensures motive operation (fun _ => motive) motive

theorem Ensures.bind (first : Ensures before operation middle failed)
    (second : ∀ value, Ensures (middle value) (next value) after failed) :
    Ensures before (operation >>= next) after failed := by
  intro start holds
  have ensured := first start holds
  cases ran : operation start with
  | ok value last =>
    rw [ran] at ensured
    rw [bind_of_ok ran]
    exact second value last ensured
  | error fault last =>
    rw [ran] at ensured
    rw [bind_of_error ran]
    exact ensured

theorem Ensures.weaken {weaker : α → σ → Prop} {spoiled : σ → Prop}
    (ensures : Ensures before operation middle failed)
    (on_ok : ∀ value last, middle value last → weaker value last)
    (on_error : ∀ last, failed last → spoiled last) :
    Ensures before operation weaker spoiled := by
  intro start holds
  have ensured := ensures start holds
  generalize operation start = result at ensured
  cases result with
  | ok value last => exact on_ok value last ensured
  | error fault last => exact fun roomy => on_error last (ensured roomy)

theorem Ensures.get_bind {next : σ → EStateM Fault σ β}
    (ensures : ∀ value, Ensures before (next value) after failed) :
    Ensures before (get >>= next) after failed :=
  fun start => ensures start start

theorem Ensures.ite {condition : Prop} [Decidable condition] {other : EStateM Fault σ α}
    (first : Ensures before operation middle failed) (second : Ensures before other middle failed) :
    Ensures before (if condition then operation else other) middle failed := by
  split
  · exact first
  · exact second

theorem Ensures.of_ok {value : α} (change : σ → σ)
    (ran : ∀ start, operation start = .ok value (change start))
    (fits : ∀ start, before start → middle value (change start)) :
    Ensures before operation middle failed := by
  intro start holds
  rw [ran]
  exact fits start holds

theorem Keeps.bind (first : Keeps motive operation) (second : ∀ value, Keeps motive (next value)) :
    Keeps motive (operation >>= next) :=
  Ensures.bind first second

theorem Keeps.pure (value : α) : Keeps motive (pure value) := fun _ holds => holds

theorem Keeps.get : Keeps motive get := fun _ holds => holds

theorem Keeps.throw (fault : Fault) : Keeps motive (throw fault : EStateM Fault σ α) :=
  fun _ holds _ => holds

theorem Keeps.modify {change : σ → σ} (kept : ∀ start, motive start → motive (change start)) :
    Keeps motive (modify change) := kept

theorem Keeps.ite {condition : Prop} [Decidable condition] {other : EStateM Fault σ α}
    (first : Keeps motive operation) (second : Keeps motive other) :
    Keeps motive (if condition then operation else other) :=
  Ensures.ite first second

end

variable {δ α : Type}

namespace Screen

variable {operation : DeviceM δ α} {screen : Screen δ} {device : δ}

theorem onDevice_of_ok {value : α} (ran : operation screen.device = .ok value device) :
    onDevice operation screen = .ok value { screen with device } := by
  rw [onDevice, ran]

theorem onDevice_of_error {fault : Fault} (failed : operation screen.device = .error fault device) :
    onDevice operation screen = .error fault { screen with device } := by
  rw [onDevice, failed]

theorem onSwapchain_of_ok {resources : SurfaceResources} {swapchain : Swapchain} {value : α}
    {operation : Swapchain → DeviceM δ (α × Swapchain)}
    (ran : operation resources.swapchain screen.device = .ok (value, swapchain) device) :
    onSwapchain resources operation screen =
      .ok value
        { screen with
          device
          life := { screen.life with resources := some { resources with swapchain } } } :=
  bind_of_ok (onDevice_of_ok ran)

end Screen

namespace FrameLoop

variable {operation : ScreenM δ α} {loop : FrameLoop δ} {screen : Screen δ}

theorem onScreen_of_ok {value : α} (ran : operation loop.toScreen = .ok value screen) :
    onScreen operation loop = .ok value { loop with toScreen := screen } := by
  rw [onScreen, ran]

theorem onScreen_of_error {fault : Fault} (failed : operation loop.toScreen = .error fault screen) :
    onScreen operation loop = .error fault { loop with toScreen := screen } := by
  rw [onScreen, failed]

theorem check_of_ok (value : α) (loop : FrameLoop δ) :
    check (.ok value) loop = .ok value loop := rfl

theorem report_eq (notice : Notice) (loop : FrameLoop δ) :
    onScreen (Screen.report notice) loop =
      .ok () { loop with notices := loop.notices ++ [notice] } := rfl

theorem onDevice_of_ok {operation : DeviceM δ α} {device : δ} {value : α}
    (ran : operation loop.device = .ok value device) :
    onDevice operation loop = .ok value { loop with device } :=
  onScreen_of_ok (Screen.onDevice_of_ok ran)

end FrameLoop

end Waterfall

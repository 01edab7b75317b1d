import Mathlib.Data.List.Induction
import Waterfall.Frame.Run
import Waterfall.Proofs.Frame.Coherence

/-! # Messages between two turns

Apart from the record, a message sets a few fields of the loop: a new size sets the window's size
and the rebuild to come, a selection sets the scene, its indices and the pipeline. That a selection
skips what is already in place is not seen, for in a coherent loop the indices and the pipeline are
those of the selected scene. Later messages of a kind absorb earlier ones and those of different
kinds commute, so of all messages between two turns the last ones of each kind are left.
-/

namespace Waterfall

namespace RenderControl

/-- The size that a message reports. -/
def extent? : RenderControl → Option Extent
  | resize extent => some extent
  | select _ => none

/-- The scene that a message selects. -/
def scene? : RenderControl → Option Scene
  | resize _ => none
  | select scene => some scene

/-- The size that is reported last. -/
def lastExtent? (messages : List RenderControl) : Option Extent :=
  (messages.filterMap extent?).getLast?

/-- The scene that is selected last. -/
def lastScene? (messages : List RenderControl) : Option Scene :=
  (messages.filterMap scene?).getLast?

end RenderControl

namespace FrameLoop

open RenderControl (lastExtent? lastScene?)

variable {loop : FrameLoop MemoryDevice} {layout : Layout}

/-- The loop without its record: the calls of the device and the notices. -/
def unrecorded (loop : FrameLoop MemoryDevice) : FrameLoop MemoryDevice :=
  { loop with
    device := { loop.device with calls := [] }
    notices := [] }

/-- The loop with another size of the window and a rebuild scheduled for it. -/
def resized (extent : Extent) (loop : FrameLoop MemoryDevice) : FrameLoop MemoryDevice :=
  { loop with
    windowExtent := extent
    life := { loop.life with pending := some extent } }

/-- The loop with another scene, the indices of its style and its pipeline. -/
def selected (scene : Scene) (loop : FrameLoop MemoryDevice) : FrameLoop MemoryDevice :=
  { loop with
    device :=
      { loop.device with
        indices := (Mesh.generate scene.style loop.layout).toOption.getD [] }
    life :=
      { loop.life with
        scene
        resources := loop.life.resources.map fun resources => { resources with scene } } }

/-- What a message sets. -/
def follow (loop : FrameLoop MemoryDevice) : RenderControl → FrameLoop MemoryDevice
  | .resize extent => loop.resized extent
  | .select scene => loop.selected scene

/-- The loop after one size and one scene at most; what is not given is unchanged. -/
def settled (extent? : Option Extent) (scene? : Option Scene) (loop : FrameLoop MemoryDevice) :
    FrameLoop MemoryDevice :=
  let sized :=
    match extent? with
    | some extent => loop.resized extent
    | none => loop
  match scene? with
  | some scene => sized.selected scene
  | none => sized

theorem resized_settled (extent : Extent) (extent? : Option Extent) (scene? : Option Scene)
    (loop : FrameLoop MemoryDevice) :
    (loop.settled extent? scene?).resized extent = loop.settled (some extent) scene? := by
  cases extent? <;> cases scene? <;> rfl

theorem selected_settled (scene : Scene) (extent? : Option Extent) (scene? : Option Scene)
    (loop : FrameLoop MemoryDevice) :
    (loop.settled extent? scene?).selected scene = loop.settled extent? (some scene) := by
  cases scene? with
  | none => rfl
  | some before =>
    cases extent? <;> simp [settled, selected, resized, Function.comp_def]

/-- Only the last message of each kind counts. -/
theorem foldl_follow (messages : List RenderControl) (loop : FrameLoop MemoryDevice) :
    messages.foldl follow loop = loop.settled (lastExtent? messages) (lastScene? messages) := by
  induction messages using List.reverseRecOn with
  | nil => rfl
  | append_singleton before message ih =>
    rw [List.foldl_append, ih]
    cases message with
    | resize extent =>
      have sized : lastExtent? (before ++ [.resize extent]) = some extent := by
        simp [lastExtent?, RenderControl.extent?]
      have kept : lastScene? (before ++ [.resize extent]) = lastScene? before := by
        simp [lastScene?, RenderControl.scene?]
      rw [sized, kept]
      exact resized_settled extent _ _ loop
    | select scene =>
      have kept : lastExtent? (before ++ [.select scene]) = lastExtent? before := by
        simp [lastExtent?, RenderControl.extent?]
      have chosen : lastScene? (before ++ [.select scene]) = some scene := by
        simp [lastScene?, RenderControl.scene?]
      rw [kept, chosen]
      exact selected_settled scene _ _ loop

theorem scene_settled (extent? : Option Extent) (scene? : Option Scene)
    (loop : FrameLoop MemoryDevice) :
    (loop.settled extent? scene?).life.scene = scene?.getD loop.life.scene := by
  cases extent? <;> cases scene? <;> rfl

theorem unrecorded_settled (extent? : Option Extent) (scene? : Option Scene)
    (loop : FrameLoop MemoryDevice) :
    (loop.settled extent? scene?).unrecorded = loop.unrecorded.settled extent? scene? := by
  cases extent? <;> cases scene? <;> rfl

/-- How messages are handled: what they set is in place, or one of them selects a style whose
indices cannot be numbered. -/
inductive HandledEnd (layout : Layout) (messages : List RenderControl)
    (loop : FrameLoop MemoryDevice) : EStateM.Result Fault (FrameLoop MemoryDevice) Unit → Prop
  | handled {after : FrameLoop MemoryDevice} (coherent : after.Coherent layout)
      (left : after.unrecorded = messages.foldl follow loop.unrecorded) :
      HandledEnd layout messages loop (.ok () after)
  | unnumbered {scene : Scene} {cause : Breach} {left : FrameLoop MemoryDevice}
      (present : .select scene ∈ messages)
      (unnumbered : Mesh.generate scene.style layout = .error cause) :
      HandledEnd layout messages loop (.error (.breach cause) left)

/-- A coherent loop has in place what the selection of its own scene sets. -/
theorem Coherent.selected_scene (coherent : loop.Coherent layout) :
    loop.selected loop.life.scene = loop := by
  have indexed := coherent.indexed
  rw [← coherent.layout_eq] at indexed
  have pipeline : loop.life.resources.map (fun resources =>
      { resources with scene := loop.life.scene }) = loop.life.resources := by
    cases live : loop.life.resources with
    | none => rfl
    | some resources => rw [← (coherent.upToDate.shown resources live).1, Option.map_some]
  rw [selected, indexed, pipeline]
  rfl

theorem Coherent.handle_end (coherent : loop.Coherent layout) (message : RenderControl) :
    HandledEnd layout [message] loop (handle message loop) := by
  cases message with
  | resize extent =>
    exact .handled ⟨coherent.layout_eq, coherent.indexed, coherent.upToDate.uploaded,
      coherent.upToDate.shown⟩ rfl
  | select scene =>
    have kept := coherent.select scene
    have ended := selectScene_end scene loop
    rw [handle]
    generalize selectScene scene loop = result at kept ended
    cases ended with
    | same same =>
      refine .handled kept ?_
      have unchanged := congrArg unrecorded coherent.selected_scene
      rw [← same] at unchanged
      exact unchanged.symm
    | unnumbered restyled unnumbered =>
      rw [coherent.layout_eq] at unnumbered
      exact .unnumbered List.mem_cons_self unnumbered
    | restyled notices restyled generated =>
      refine .handled kept ?_
      simp [follow, selected, unrecorded, Screen.rescened, MemoryDevice.reindexed, generated,
        MemoryDevice.prepare, Except.toOption]
    | rescened notices different same =>
      refine .handled kept ?_
      have indexed := coherent.indexed
      rw [← coherent.layout_eq, ← same] at indexed
      simp [follow, selected, unrecorded, Screen.rescened, indexed, MemoryDevice.prepare,
        Except.toOption]

/-- Messages set what each of them sets, one after the other. -/
theorem Coherent.handleAll_end (coherent : loop.Coherent layout) (messages : List RenderControl) :
    HandledEnd layout messages loop (handleAll messages loop) := by
  induction messages generalizing loop with
  | nil => exact .handled coherent rfl
  | cons message rest ih =>
    have first := coherent.handle_end message
    rw [handleAll]
    cases ran : handle message loop with
    | error fault left =>
      rw [bind_of_error ran]
      rw [ran] at first
      cases first with
      | unnumbered present unnumbered =>
        obtain rfl := List.mem_singleton.mp present
        exact .unnumbered List.mem_cons_self unnumbered
    | ok _ next =>
      rw [bind_of_ok ran]
      rw [ran] at first
      cases first with
      | handled next_coherent next_left =>
        have later := ih next_coherent
        generalize handleAll rest next = result at later
        cases later with
        | handled after_coherent after_left =>
          refine .handled after_coherent ?_
          rw [after_left, next_left]
          rfl
        | unnumbered present unnumbered =>
          exact .unnumbered (List.mem_cons_of_mem _ present) unnumbered

/-- Messages whose styles can all be numbered leave the loop settled with the last of them. -/
theorem Coherent.handleAll_of_numbered (coherent : loop.Coherent layout)
    {messages : List RenderControl}
    (numbered : ∀ scene, .select scene ∈ messages →
      ∃ indices, Mesh.generate scene.style layout = .ok indices) :
    ∃ after, handleAll messages loop = .ok () after ∧ after.Coherent layout ∧
      after.unrecorded =
        (loop.settled (lastExtent? messages) (lastScene? messages)).unrecorded := by
  have ended := coherent.handleAll_end messages
  generalize handleAll messages loop = result at ended
  cases ended with
  | handled after_coherent left =>
    refine ⟨_, rfl, after_coherent, ?_⟩
    rw [left, foldl_follow, unrecorded_settled]
  | @unnumbered scene _ _ present unnumbered =>
    obtain ⟨indices, generated⟩ := numbered scene present
    rw [generated] at unnumbered
    cases unnumbered

/-- One size and one scene at most, in either order. -/
theorem Coherent.handleAll_pair (coherent : loop.Coherent layout) {extent? : Option Extent}
    {scene? : Option Scene} {messages : List RenderControl}
    (ordered : messages = extent?.toList.map .resize ++ scene?.toList.map .select ∨
      messages = scene?.toList.map .select ++ extent?.toList.map .resize)
    (numbered : ∀ scene ∈ scene?, ∃ indices, Mesh.generate scene.style layout = .ok indices) :
    ∃ after, handleAll messages loop = .ok () after ∧
      after.unrecorded = (loop.settled extent? scene?).unrecorded := by
  have only : lastExtent? messages = extent? ∧ lastScene? messages = scene? := by
    rcases ordered with rfl | rfl <;> cases extent? <;> cases scene? <;> exact ⟨rfl, rfl⟩
  have selects (scene : Scene) (member : .select scene ∈ messages) : scene ∈ scene? := by
    rcases ordered with rfl | rfl <;> simpa using member
  obtain ⟨after, handled, _, left⟩ :=
    coherent.handleAll_of_numbered fun scene member => numbered scene (selects scene member)
  rw [only.1, only.2] at left
  exact ⟨after, handled, left⟩

/-- Calls keep the loop coherent. -/
theorem coherent_replay {config : RenderConfig} {camera : Camera} {overlay : Overlay}
    {settings : DeviceSettings} {start : FrameLoop MemoryDevice} {calls : List LoopCall}
    {reports : List LoopReport}
    (created : create config camera layout overlay settings.device = .ok () start)
    (replayed : replay calls start = (reports, loop)) : loop.Coherent layout := by
  have created := created_of_create created
  let motive (_ : List LoopReport) (loop : FrameLoop MemoryDevice) : Prop :=
    loop.Agrees ∧ loop.Coherent layout
  have step : ∀ call ∈ calls, ∀ reports loop, motive reports loop →
      motive (reports ++ [(call.run loop).1]) (call.run loop).2 := by
    rintro call _ reports loop ⟨agrees, coherent⟩
    exact ⟨agrees.run call, coherent.run agrees call⟩
  have started : motive [] start :=
    ⟨agrees_of_created settings.imageCount_pos created, coherent_of_created created⟩
  have kept : motive reports loop := replay_keeps step started replayed
  exact kept.2

/-- Whatever was called before, handling messages leaves the loop, apart from its record, as the
size that was reported last and the scene that was selected last leave it, and what none of them
reports is unchanged. Handling these two alone, in either order, leaves it so as well. Only a
selected style whose indices cannot be numbered is a breach, and no style is one if the vertices of
the layout can be numbered with 32 bits. -/
theorem messages_coalesce {config : RenderConfig} {camera : Camera} {overlay : Overlay}
    {settings : DeviceSettings} {start : FrameLoop MemoryDevice} {calls : List LoopCall}
    {reports : List LoopReport}
    (created : create config camera layout overlay settings.device = .ok () start)
    (replayed : replay calls start = (reports, loop)) (messages : List RenderControl) :
    let last := loop.settled (lastExtent? messages) (lastScene? messages)
    let resizes := (lastExtent? messages).toList.map RenderControl.resize
    let selects := (lastScene? messages).toList.map RenderControl.select
    (∀ after, handleAll messages loop = .ok () after →
      after.unrecorded = last.unrecorded ∧
        Mesh.generate last.life.scene.style layout = .ok last.device.indices ∧
        (∃ first, handleAll (resizes ++ selects) loop = .ok () first ∧
          first.unrecorded = last.unrecorded) ∧
        ∃ second, handleAll (selects ++ resizes) loop = .ok () second ∧
          second.unrecorded = last.unrecorded) ∧
      (∀ fault left, handleAll messages loop = .error fault left →
        ∃ scene cause, .select scene ∈ messages ∧
          Mesh.generate scene.style layout = .error cause ∧ fault = .breach cause) ∧
      (0 < layout.rows → 0 < layout.rowLength →
        layout.rows * layout.rowLength < Word.indexLimit →
        ∃ after, handleAll messages loop = .ok () after) := by
  intro last resizes selects
  have coherent := coherent_replay created replayed
  have ended := coherent.handleAll_end messages
  refine ⟨?_, ?_, ?_⟩
  · intro after ran
    rw [ran] at ended
    cases ended with
    | handled after_coherent left =>
      rw [foldl_follow, ← unrecorded_settled] at left
      have scene : after.life.scene = last.life.scene :=
        congrArg (·.life.scene) left
      have indices : after.device.indices = last.device.indices :=
        congrArg (·.device.indices) left
      have indexed := after_coherent.indexed
      rw [scene, indices] at indexed
      have numbered : ∀ scene ∈ lastScene? messages,
          ∃ indices, Mesh.generate scene.style layout = .ok indices := by
        intro scene chosen
        have selected : last.life.scene = scene :=
          (scene_settled _ _ loop).trans (by rw [chosen, Option.getD_some])
        rw [selected] at indexed
        exact ⟨_, indexed⟩
      exact ⟨left, indexed, coherent.handleAll_pair (.inl rfl) numbered,
        coherent.handleAll_pair (.inr rfl) numbered⟩
  · intro fault left failed
    rw [failed] at ended
    cases ended with
    | unnumbered present unnumbered => exact ⟨_, _, present, unnumbered, rfl⟩
  · intro rows_pos rowLength_pos fits
    have numbered (scene : Scene) (_ : .select scene ∈ messages) :
        ∃ indices, Mesh.generate scene.style layout = .ok indices :=
      ⟨_, Mesh.generate_eq scene.style rows_pos rowLength_pos fits⟩
    obtain ⟨after, ran, _⟩ := coherent.handleAll_of_numbered numbered
    exact ⟨after, ran⟩

/-- While a frame is drawn the window changes its size twice, and two scenes are selected. -/
theorem messages_coalesce_of_live_surface :
    let moment : Moment := ⟨0, History.create .origin ⟨2, 3⟩ (by decide), .identity⟩
    let messages : List RenderControl :=
      [.select { style := .circle }, .resize ⟨1, 1⟩, .resize ⟨8, 6⟩, .select { style := .lines }]
    ∃ start reports loop after,
      create {} {} ⟨2, 3⟩ {} (DeviceSettings.device { window := ⟨4, 3⟩ }) = .ok () start ∧
        replay [.turn moment] start = (reports, loop) ∧
        handleAll messages loop = .ok () after ∧
        after.life.pending = some ⟨8, 6⟩ ∧ after.life.scene = { style := .lines } ∧
        Mesh.generate .lines ⟨2, 3⟩ = .ok after.device.indices ∧
        after.life.resources.map (·.extent) = some ⟨4, 3⟩ ∧ after.frame = 1 ∧
        ∃ second, handleAll [.select { style := .lines }, .resize ⟨8, 6⟩] loop = .ok () second ∧
          second.unrecorded = after.unrecorded := by
  intro moment messages
  let first := leftBy (create {} {} ⟨2, 3⟩ {} (DeviceSettings.device { window := ⟨4, 3⟩ }))
  have created : create {} {} ⟨2, 3⟩ {} (DeviceSettings.device { window := ⟨4, 3⟩ }) =
      .ok () first := rfl
  have drawn : (replay [.turn moment] first).2.life.resources.map (·.extent) = some ⟨4, 3⟩ ∧
      (replay [.turn moment] first).2.frame = 1 := by
    decide +kernel
  generalize replayed : replay [.turn moment] first = result at drawn
  obtain ⟨reports, loop⟩ := result
  obtain ⟨handled, _, total⟩ := messages_coalesce created replayed messages
  obtain ⟨after, ran⟩ := total (by decide) (by decide) (by decide)
  obtain ⟨left, indexed, _, second, ran_second, left_second⟩ := handled after ran
  have extent : after.life.resources.map (·.extent) = loop.life.resources.map (·.extent) := by
    have resources := congrArg (·.life.resources.map (·.extent)) left
    exact resources.trans (Option.map_map _ _ _)
  refine ⟨first, reports, loop, after, created, replayed, ran, congrArg (·.life.pending) left,
    congrArg (·.life.scene) left, ?_, extent.trans drawn.1,
    (congrArg (·.frame) left).trans drawn.2, second, ran_second, left_second.trans left.symm⟩
  have indices := congrArg (·.device.indices) left
  exact indexed.trans (congrArg Except.ok indices.symm)

end FrameLoop

end Waterfall

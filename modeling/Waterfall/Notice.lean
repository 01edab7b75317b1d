import Waterfall.Device.Extent
import Waterfall.Fault
import Waterfall.Scene

/-! # Notices

What the program reports about its progress, as data. Every notice has a level and a text.
-/

namespace Waterfall

/-- The importance of a notice. -/
inductive Level
  | debug | info | warn | error
deriving DecidableEq, Repr

/-- The name of a level. -/
def Level.name : Level → String
  | debug => "DEBUG"
  | info => "INFO"
  | warn => "WARN"
  | error => "ERROR"

/-- How an image was received by the presentation. -/
inductive Presented
  /-- Shown. -/
  | presented
  /-- Shown, but the surface should be rebuilt. -/
  | suboptimal
  /-- Shown or not; the surface must be rebuilt. -/
  | outOfDate
deriving DecidableEq, Repr, Inhabited

/-- The name of a presentation outcome. -/
def Presented.name : Presented → String
  | presented => "Presented"
  | suboptimal => "Suboptimal"
  | outOfDate => "OutOfDate"

/-- One report about the program's progress. -/
inductive Notice
  | unknownTaper (name : String)
  | unknownScale (name : String)
  | unknownStyle (name : String)
  | unknownRaster (name : String)
  /-- The window had no size when the surface was to be created. -/
  | creationDeferred
  /-- The window has no size when the surface is to be rebuilt. -/
  | waitingForResize
  /-- A rebuild attempt failed and the next one uses `next`. -/
  | rebuildFailed (attempt : Nat) (reason : String) (next : Extent)
  | imageCountChanged (before after : Nat)
  | rebuilt (extent : Extent) (imageCount : Nat)
  | rendererReady (extent : Extent) (slots : Nat) (scene : Scene)
  | outOfDateAt (frame : Nat) (extent : Extent)
  | presentationDegraded (outcome : Presented)
  | sceneSelected (scene : Scene)
  | renderLoopStopped (frames : Nat)
  | shutdownAlsoFailed (reason : String)
  /-- A slot's guard was still unsignaled when the loop shut down. -/
  | slotInFlight (slot : Nat)
  | renderLoopFailed (reason : String)
  | workerStopped (windows dropped : Nat)
  | workerFailed (reason : String)
  /-- A thread that nobody stopped ended with a failure. -/
  | threadFailed (reason : String)
deriving DecidableEq, Repr

namespace Notice

/-- The importance of a notice. -/
def level : Notice → Level
  | unknownTaper _ | unknownScale _ | unknownStyle _ | unknownRaster _ => .warn
  | rebuildFailed _ _ _ | slotInFlight _ => .warn
  | rendererReady _ _ _ | sceneSelected _ => .info
  | shutdownAlsoFailed _ | renderLoopFailed _ | workerFailed _ | threadFailed _ => .error
  | creationDeferred | waitingForResize | imageCountChanged _ _ | rebuilt _ _ => .debug
  | outOfDateAt _ _ | presentationDegraded _ | renderLoopStopped _ | workerStopped _ _ => .debug

/-- A notice in words. -/
def text : Notice → String
  | unknownTaper name => s!"Unknown window function '{name}', using hann"
  | unknownScale name => s!"Unknown scale '{name}', using identity"
  | unknownStyle name => s!"Unknown style '{name}', using surface"
  | unknownRaster name => s!"Unknown raster mode '{name}', using fill"
  | creationDeferred => "Surface is zero-sized at startup, deferring creation"
  | waitingForResize => "Surface is zero-sized, waiting for a resize"
  | rebuildFailed attempt reason next =>
    s!"Surface rebuild attempt {attempt} failed ({reason}), retrying at {next.text}"
  | imageCountChanged before after =>
    s!"Image count changed {before} -> {after}, rebuilding frame slots"
  | rebuilt extent imageCount => s!"Surface rebuilt at {extent.text} ({imageCount} images)"
  | rendererReady extent slots scene =>
    s!"Renderer: {extent.text}, {slots} frame slots, " ++ scene.text " / "
  | outOfDateAt frame extent =>
    s!"Surface out of date at frame {frame}, rebuilding at {extent.text}"
  | presentationDegraded outcome =>
    s!"Present reported {outcome.name}, rebuilding before next frame"
  | sceneSelected scene => "Scene: " ++ scene.text " / "
  | renderLoopStopped frames => s!"Render loop stopped after {frames} frames"
  | shutdownAlsoFailed reason => s!"Shutdown after failure also failed: {reason}"
  | slotInFlight slot => s!"Frame slot {slot} still in flight at shutdown"
  | renderLoopFailed reason => s!"Render loop failed: {reason}"
  | workerStopped windows dropped =>
    s!"Spectrum worker stopped after {windows} windows ({dropped} dropped)"
  | workerFailed reason => s!"Spectrum worker failed: {reason}"
  | threadFailed reason => reason

end Notice

end Waterfall

import Waterfall.CommandLine.Parse
import Waterfall.Frame.Thread

/-! # The application

The application holds the settings, the board and, while something is drawn, the render thread. It
is made from the options of the command line, passes scene choices on to the thread and stops it at
the end. What it and its thread report is one list of notices.
-/

namespace Waterfall

/-- A failure of the application, with what was being done. -/
structure AppError where
  context : String
  cause : Failure
deriving DecidableEq, Repr

namespace AppError

/-- What was being done, then the failure and its causes. -/
def chain (error : AppError) : List String := error.context :: error.cause.chain

end AppError

/-- The application. -/
structure App (δ : Type) where
  analysis : AnalysisConfig
  render : RenderConfig
  /-- The scene chosen last. -/
  scene : Scene
  board : Board
  thread : Option (RenderThread δ) := none
  notices : List Notice := []

namespace App

/-- What keeps the application from being made. -/
inductive StartFault
  | rejected (error : AppError)
  | breach (cause : Breach)

/-- Making the application, which reports notices on the way. -/
abbrev StartM := EStateM StartFault (List Notice)

/-- Report notices while the application is made. -/
def note (notices : List Notice) : StartM Unit := modify (· ++ notices)

/-- Go on only if settings were accepted. -/
def accept (context : String) : Except Failure Unit → StartM Unit
  | .ok () => pure ()
  | .error cause => throw (.rejected ⟨context, cause⟩)

/-- An empty board, unless it cannot be stored. -/
def createBoard (layout : Layout) (scale : Scale) : StartM Board :=
  match Board.create layout scale with
  | .ok board => pure board
  | .error cause => throw (.breach cause)

/-- The application for the options of a command line. -/
def create {δ : Type} (options : CommandLine.Options) : StartM (App δ) := do
  let (analysis, analysisNotices) := options.analysisConfig
  note analysisNotices
  accept "invalid spectrum settings" (analysis.validate.mapError (·.toFailure))
  let (render, renderNotices) := options.renderConfig
  note renderNotices
  accept "invalid render settings" (render.validate.mapError (·.toFailure))
  let (scale, scaleNotices) := options.parsedScale
  note scaleNotices
  let board ← createBoard analysis.layout scale
  return { analysis, render, scene := render.scene, board, notices := ← get }

variable {δ : Type}

/-- Report notices. -/
def tell (app : App δ) (notices : List Notice) : App δ :=
  { app with notices := app.notices ++ notices }

/-- Hold a thread, and take over its notices. -/
def hold (app : App δ) (thread : RenderThread δ) : App δ :=
  { app.tell thread.loop.notices with
    thread := some { thread with loop := { thread.loop with notices := [] } } }

/-- Change the thread, if there is one. -/
def updateThread (app : App δ) (change : RenderThread δ → RenderThread δ) : App δ :=
  match app.thread with
  | some thread => app.hold (change thread)
  | none => app

/-- Choose another scene, and pass it on to the thread. -/
def selectScene (app : App δ) (scene : Scene) : App δ :=
  let chosen := { app with scene }.tell [.sceneSelected scene]
  chosen.updateThread fun thread => thread.send (.select scene)

variable [GraphicsDevice δ]

/-- Let go of the thread, if there is one. -/
def release (app : App δ) : App δ := app.updateThread RenderThread.release

/-- Hold a new thread; one that was held before is let go of. -/
def attach (app : App δ) (thread : RenderThread δ) : App δ :=
  let told := (app.tell thread.loop.notices).release
  told.hold { thread with loop := { thread.loop with notices := [] } }

/-- Stop the thread and let it go; a failure that ended it is handed out. -/
def shutdown (app : App δ) : Except AppError Unit × App δ :=
  match app.thread with
  | none => (.ok (), app)
  | some thread =>
    let (result, thread) := thread.stop
    let app := app.hold thread
    (result.mapError fun cause => ⟨"render thread failed", cause⟩, { app with thread := none })

end App

end Waterfall

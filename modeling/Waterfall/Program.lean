import Waterfall.App
import Waterfall.CommandLine.Help
import Waterfall.Device.Memory
import Waterfall.Program.Transcript
import Waterfall.Text.Plain

/-! # The program

What a call of the program prints and returns on a machine without a display, where an accepted
command line ends as soon as a window is asked for.
-/

namespace Waterfall.Program

/-- What a call of the program leaves behind. -/
structure Outcome where
  code : Nat
  stdout : String := ""
  /-- The lines of the log, each without its time. -/
  log : List String := []
  /-- The other lines of the error output. -/
  stderr : List String := []

/-- The exit code of a failure. -/
def failureCode : Nat := 1

/-- The exit code of a command line that is not accepted. -/
def usageCode : Nat := 2

/-- The exit code of a breach. -/
def breachCode : Nat := 101

/-- The part of the program that logs the given notices. -/
def logTarget : String := "audioscope::cli"

/-- The name of a level, filled up to five characters. -/
def levelColumn (level : Level) : String := CommandLine.padTo 5 level.name

/-- The indentation of all lines of a log record but the first. -/
def recordIndent : String := "    "

/-- A notice as a record of the log, after its time. The log is no terminal, so control sequences
are left out, of which one that is not complete reaches beyond the text it came from. -/
def logRecord (notice : Notice) : Piece where
  text := Text.withoutControls <|
    levelColumn notice.level ++ " " ++ logTarget ++ "] " ++
      ("\n" ++ recordIndent).intercalate (notice.text.splitOn "\n") ++ "\n"
  isRecord := true

/-- The lines of the report on what failed and why; several causes are numbered. -/
def reportLines (context : String) (causes : List String) : List String :=
  [s!"Error: {context}", "", "Caused by:"] ++
    match causes with
    | [cause] => ["    " ++ cause]
    | causes => causes.mapIdx fun number cause => s!"    {number}: {cause}"

/-- What is said of the environment of a machine without a display. -/
def noDisplay : String := "neither WAYLAND_DISPLAY nor WAYLAND_SOCKET nor DISPLAY is set."

/-- The report of a call that finds no display, for the cause that the window system gives. -/
def displayReport (cause : String) : List String :=
  reportLines "failed to create event loop" [cause]

/-- The outcome of a call that logged notices and then wrote lines to the error output. -/
def Outcome.ofOutput (code : Nat) (log : List Notice) (output : List String) : Outcome :=
  let pieces := log.map logRecord ++ output.map fun line => { text := line ++ "\n" }
  let (records, others) := (Line.ofPieces pieces).partition Line.beginsRecord
  { code, log := records.map Line.text, stderr := others.map Line.text }

/-- The first line of the report on a command line that is not accepted. The texts quoted from it
are set off by sequences of their own, so theirs do not reach beyond them. -/
def refusalLine (refusal : CommandLine.Refusal) : List String :=
  let report := s!"error: {(refusal.mapArguments Text.withoutControls).text}\n"
  ((Line.ofPieces [{ text := report }]).take 1).map Line.text

/-- Call the program with arguments, on a machine where asking for a window fails with `cause`. -/
def run (arguments : List String) (cause : String) : Outcome :=
  match CommandLine.parse arguments with
  | .error .help => { code := 0, stdout := CommandLine.helpText }
  | .error (.refused refusal) => { code := usageCode, stderr := refusalLine refusal }
  | .ok options =>
    let start : App.StartM (App MemoryDevice) := App.create options
    match start [] with
    | .ok _ log => .ofOutput failureCode log (displayReport cause)
    | .error (.rejected error) log =>
      .ofOutput failureCode log (reportLines error.context error.cause.chain)
    | .error (.breach _) log => .ofOutput breachCode log []

end Waterfall.Program

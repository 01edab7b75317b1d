import Waterfall.CommandLine.Parse

/-! # The help text

One line per option: how it is written, what it does, and its default. The descriptions start in one
column, two blanks after the widest option.
-/

namespace Waterfall.CommandLine

/-- The name of the program. -/
def programName : String := "audioscope"

/-- What the program does. -/
def summary : String := "Real-time 3D spectrum history of the default audio input"

/-- What an option that takes a value does. -/
def Setting.purpose : Setting → String
  | overlap => "Overlap between consecutive analysis windows, in [0, 1)"
  | windowLength => "Analysis window length (samples, even)"
  | historyRows => "Spectrum rows kept on screen"
  | taper => "Window function: hann (default), rectangular"
  | scale => "Vertex scale: identity (default), exponential, logarithmic"
  | style => "Visual style: surface (default), lines, points, circle, spiral"
  | raster => "Raster mode: fill (default), line, point"
  | width => "Initial window width (pixels)"
  | height => "Initial window height (pixels)"
  | framesInFlight => "Frames the GPU may queue ahead of presentation"

/-- The default value of an option, as it would be written. -/
def Setting.defaultText (setting : Setting) : String :=
  let options : Options := {}
  match setting with
  | overlap => "0.5"
  | windowLength => toString options.windowLength
  | historyRows => toString options.historyRows
  | taper => options.taper
  | scale => options.scale
  | style => options.style
  | raster => options.raster
  | width => toString options.width
  | height => toString options.height
  | framesInFlight => toString options.framesInFlight

namespace Argument

/-- What an option does. -/
def purpose : Argument → String
  | monitor => "Play the captured input back through the default output device"
  | help => "Print help"
  | setting choice => s!"{choice.purpose} [default: {choice.defaultText}]"

/-- The option with its short form, or a blank in its place. -/
def heading : Argument → String
  | help => "-h, --help"
  | argument => "    " ++ argument.text

end Argument

/-- A text followed by blanks up to a width. -/
def padTo (width : Nat) (text : String) : String :=
  text ++ String.ofList (List.replicate (width - text.length) ' ')

/-- The column in which the descriptions start. -/
def purposeColumn : Nat :=
  (Argument.all.map fun argument => argument.heading.length).foldl max 0 + 2

/-- The line of one option. -/
def optionLine (argument : Argument) : String :=
  "  " ++ padTo purposeColumn argument.heading ++ argument.purpose

/-- The whole help. -/
def helpLines : List String :=
  [summary, "", s!"Usage: {programName} [OPTIONS]", "", "Options:"] ++ Argument.all.map optionLine

/-- The help as one text. -/
def helpText : String := String.join (helpLines.map (· ++ "\n"))

end Waterfall.CommandLine

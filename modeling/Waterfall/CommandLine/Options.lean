import Waterfall.Analysis.Config
import Waterfall.CommandLine.Number
import Waterfall.Frame.Config
import Waterfall.Notice
import Waterfall.Spectrum.Scale
import Waterfall.Text.Lowercase

/-! # Command-line options

The options with their defaults, and the settings they stand for. A name that no choice has is
reported and the default choice is used.
-/

namespace Waterfall.CommandLine

/-- An option that takes a value. -/
inductive Setting
  | overlap | windowLength | historyRows | taper | scale | style | raster
  | width | height | framesInFlight
deriving DecidableEq, Repr, Inhabited

namespace Setting

/-- Every option that takes a value, in the order of the help. -/
def all : List Setting :=
  [overlap, windowLength, historyRows, taper, scale, style, raster, width, height, framesInFlight]

/-- The name of an option, without its dashes. -/
def name : Setting → String
  | overlap => "overlap"
  | windowLength => "window-size"
  | historyRows => "history"
  | taper => "window-function"
  | scale => "scale"
  | style => "style"
  | raster => "raster"
  | width => "width"
  | height => "height"
  | framesInFlight => "frames-in-flight"

/-- What the value of an option stands for. -/
def valueName : Setting → String
  | overlap => "RATIO"
  | windowLength => "SAMPLES"
  | historyRows => "ROWS"
  | taper => "FUNCTION"
  | scale => "SCALE"
  | style => "STYLE"
  | raster => "MODE"
  | width | height => "PIXELS"
  | framesInFlight => "FRAMES"

/-- The option and its value, as they are written. -/
def text (setting : Setting) : String := s!"--{setting.name} <{setting.valueName}>"

end Setting

/-- The values of all options. -/
structure Options where
  monitor : Bool := false
  overlap : Float32 := Float32.ofBits 0x3f000000
  windowLength : Nat := 2048
  historyRows : Nat := 64
  taper : String := "hann"
  scale : String := "identity"
  style : String := "surface"
  raster : String := "fill"
  width : Nat := 1000
  height : Nat := 600
  framesInFlight : Nat := 2

namespace Options

/-- The taper of a name, in any case; `none` is a second name of the rectangular one. -/
def parseTaper? (text : String) : Option Taper :=
  match Text.lowercase text with
  | "hann" => some .hann
  | "rectangular" | "none" => some .rectangular
  | _ => none

/-- Give an option the value that a text stands for. -/
def assign (options : Options) (setting : Setting) (text : String) : Except NumberFault Options :=
  match setting with
  | .overlap => do return { options with overlap := ← readReal text }
  | .windowLength => do return { options with windowLength := ← readCount text }
  | .historyRows => do return { options with historyRows := ← readCount text }
  | .taper => .ok { options with taper := text }
  | .scale => .ok { options with scale := text }
  | .style => .ok { options with style := text }
  | .raster => .ok { options with raster := text }
  | .width => do return { options with width := ← readIndex text }
  | .height => do return { options with height := ← readIndex text }
  | .framesInFlight => do return { options with framesInFlight := ← readIndex text }

/-- A choice, or else the default one and the notice that says so. -/
def chosen {Choice : Type} (choice : Option Choice) (fallback : Choice) (notice : Notice) :
    Choice × List Notice :=
  match choice with
  | some choice => (choice, [])
  | none => (fallback, [notice])

/-- The analysis settings, and what is to be reported about them. -/
def analysisConfig (options : Options) : AnalysisConfig × List Notice :=
  let (taper, notices) :=
    chosen (parseTaper? options.taper) .hann (.unknownTaper (Text.lowercase options.taper))
  ({ windowLength := options.windowLength
     overlap := options.overlap
     historyRows := options.historyRows
     taper := taper
     monitor := options.monitor }, notices)

/-- The presentation settings, and what is to be reported about them. -/
def renderConfig (options : Options) : RenderConfig × List Notice :=
  let (style, styleNotices) :=
    chosen (VisualStyle.parse? options.style) .surface (.unknownStyle options.style)
  let (raster, rasterNotices) :=
    chosen (RasterMode.parse? options.raster) .fill (.unknownRaster options.raster)
  ({ windowWidth := options.width
     windowHeight := options.height
     framesInFlight := options.framesInFlight
     scene := ⟨style, raster⟩ }, styleNotices ++ rasterNotices)

/-- The scale, and what is to be reported about it. -/
def parsedScale (options : Options) : Scale × List Notice :=
  chosen (Scale.parse? options.scale) .identity (.unknownScale options.scale)

end Options

end Waterfall.CommandLine

import Waterfall.Analysis.Overlap
import Waterfall.Spectrum.Layout

/-! # Analysis settings

The settings of the spectrum analysis, what follows from them, and the reasons to reject them. The
checks are made in a fixed order, so of two faults the first one listed is reported.
-/

namespace Waterfall

/-- How a window is tapered before it is transformed. -/
inductive Taper
  /-- A raised cosine that is zero at both edges. -/
  | hann
  /-- No taper. -/
  | rectangular
deriving DecidableEq, Repr, Inhabited

/-- The name of a taper. -/
def Taper.name : Taper → String
  | hann => "Hann"
  | rectangular => "Rectangular"

/-- The settings of the spectrum analysis. -/
structure AnalysisConfig where
  /-- Samples in a window. -/
  windowLength : Nat := 2048
  /-- The ratio of samples that consecutive windows share. -/
  overlap : Float32 := Float32.ofBits 0x3f000000
  /-- Spectrum rows kept on screen. -/
  historyRows : Nat := 64
  taper : Taper := .hann
  /-- Whether the captured sound is played back. -/
  monitor : Bool := false
  /-- Window buffers that circulate between capture and analysis. -/
  spareWindows : Nat := 3

namespace AnalysisConfig

/-- Why analysis settings are rejected. -/
inductive Rejection
  /-- A window length that is odd or less than two. -/
  | windowLength (length : Nat)
  /-- An overlap that is no finite number. -/
  | overlap (text : String)
  | noHistoryRows
  | spareWindows (count : Nat)
deriving DecidableEq, Repr

/-- The rejection in words. -/
def Rejection.text : Rejection → String
  | windowLength length => s!"window size must be even and at least 2, got {length}"
  | overlap text => s!"overlap must be a number, got {text}"
  | noHistoryRows => "history must hold at least one row"
  | spareWindows count => s!"need at least 2 spare window buffers, got {count}"

/-- The failure that reports a rejection. -/
def Rejection.toFailure (rejection : Rejection) : Failure := .config rejection.text

/-- The bins of one transform, from the constant one to the highest. -/
def bins (config : AnalysisConfig) : Nat := config.windowLength / 2 + 1

/-- The new samples due between two windows. -/
def hop (config : AnalysisConfig) : Nat := Overlap.hop config.windowLength config.overlap

/-- The shape of the history of these spectra. -/
def layout (config : AnalysisConfig) : Layout := ⟨config.historyRows, config.bins⟩

/-- The distance between neighbouring bins, in hertz. -/
def binResolution (config : AnalysisConfig) (sampleRate : Nat) : Float32 :=
  sampleRate.toUInt64.toFloat32 / config.windowLength.toUInt64.toFloat32

/-- The text of an overlap that is no finite number. -/
def nonFiniteText? (overlap : Float32) : Option String :=
  match Binary.read overlap with
  | .nan => some "NaN"
  | .infinite negative => some (if negative then "-inf" else "inf")
  | .finite _ _ => none

/-- Accept the settings or give the first reason to reject them. -/
def validate (config : AnalysisConfig) : Except Rejection Unit := do
  if config.windowLength < 2 ∨ config.windowLength % 2 ≠ 0 then
    throw (.windowLength config.windowLength)
  if let some text := nonFiniteText? config.overlap then
    throw (.overlap text)
  if config.historyRows = 0 then
    throw .noHistoryRows
  if config.spareWindows < 2 then
    throw (.spareWindows config.spareWindows)

end AnalysisConfig

end Waterfall

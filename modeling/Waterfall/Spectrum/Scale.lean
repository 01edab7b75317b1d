import Waterfall.Fault
import Waterfall.Name
import Waterfall.Spectrum.Bin

/-! # Scales

A scale maps a complex spectrum bin to a point of the plane. It keeps the phase and changes only
the magnitude, so rows that are already stored stay meaningful when the scale changes.
-/

namespace Waterfall

/-- A displayed point. -/
structure Point where
  x : Float32
  y : Float32
deriving Inhabited

/-- The point at the origin. -/
def Point.origin : Point := ⟨0, 0⟩

/-- A choice of how bins become points. -/
inductive Scale
  /-- The components unchanged. -/
  | identity
  /-- The bin times the exponential of its magnitude: boosts loud bins. -/
  | exponential
  /-- The bin times the logarithm of its magnitude; a silent bin goes to the origin. -/
  | logarithmic
deriving DecidableEq, Repr, Inhabited

namespace Scale

/-- Every scale, in cycling order. -/
def all : List Scale := [identity, exponential, logarithmic]

/-- The name a scale is chosen by. -/
def name : Scale → String
  | identity => "identity"
  | exponential => "exponential"
  | logarithmic => "logarithmic"

/-- The scale of a name; `linear` is a second name of the identity. -/
def parse? (text : String) : Option Scale :=
  if Name.agree text "linear" then some identity else Name.find? name all text

/-- The next scale in cycling order. -/
def next : Scale → Scale
  | identity => exponential
  | exponential => logarithmic
  | logarithmic => identity

/-- The bin rescaled. -/
def rescale (scale : Scale) (bin : Bin) : Bin :=
  match scale with
  | identity => bin
  | exponential => bin.scaleBy bin.magnitude.exp
  | logarithmic => if 0 < bin.magnitude then bin.scaleBy bin.magnitude.log else Bin.zero

/-- The point of a bin. -/
def apply (scale : Scale) (bin : Bin) : Point :=
  let scaled := scale.rescale bin
  ⟨scaled.re, scaled.im⟩

/-- The row of a whole spectrum, for a scratch row of `scratchLength` points. -/
def mapRow (scale : Scale) (bins : List Bin) (scratchLength : Nat) : Except Breach (List Point) :=
  if bins.length = scratchLength then .ok (bins.map scale.apply) else .error .rowBinMismatch

end Scale

end Waterfall

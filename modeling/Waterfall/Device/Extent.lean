/-! # Surface sizes -/

namespace Waterfall

/-- The size of a window or surface in pixels. -/
structure Extent where
  width : Nat
  height : Nat
deriving DecidableEq, Repr, Inhabited

namespace Extent

/-- A minimised window reports a zero dimension. -/
def isEmpty (extent : Extent) : Bool := extent.width == 0 || extent.height == 0

/-- Width over height; one while there is no height. -/
def aspectRatio (extent : Extent) : Float32 :=
  if extent.height = 0 then 1
  else extent.width.toUInt64.toFloat32 / extent.height.toUInt64.toFloat32

/-- Width and height with a cross between them. -/
def text (extent : Extent) : String := s!"{extent.width}x{extent.height}"

end Extent

end Waterfall

import Waterfall.Name

/-! # Scenes

A scene is how the history of spectrum rows is drawn: the style that connects its points and the
raster mode that fills the connected shapes. The scale is how a spectrum bin becomes a point.
-/

namespace Waterfall

/-- How primitives are filled. -/
inductive RasterMode
  | fill | line | point
deriving DecidableEq, Repr, Inhabited

namespace RasterMode

/-- Every raster mode, in cycling order. -/
def all : List RasterMode := [fill, line, point]

/-- The name a raster mode is chosen by. -/
def name : RasterMode → String
  | fill => "fill"
  | line => "line"
  | point => "point"

/-- The raster mode of a name. -/
def parse? (text : String) : Option RasterMode := Name.find? name all text

/-- The next raster mode in cycling order. -/
def next : RasterMode → RasterMode
  | fill => line
  | line => point
  | point => fill

end RasterMode

/-- What one index of a style belongs to. -/
inductive Topology
  | triangles | lines | points
deriving DecidableEq, Repr, Inhabited

/-- The name of a topology. -/
def Topology.name : Topology → String
  | triangles => "TriangleList"
  | lines => "LineList"
  | points => "PointList"

/-- Which shapes connect the points of the history. -/
inductive VisualStyle
  /-- A triangulated grid of rows and bins. -/
  | surface
  /-- One polyline per row. -/
  | lines
  /-- Every bin a point. -/
  | points
  /-- Rows as concentric rings around a filled centre, the newest outermost. -/
  | circle
  /-- The whole history as one ribbon that winds outwards. -/
  | spiral
deriving DecidableEq, Repr, Inhabited

namespace VisualStyle

/-- Every style, in cycling order. -/
def all : List VisualStyle := [surface, lines, points, circle, spiral]

/-- The name a style is chosen by. -/
def name : VisualStyle → String
  | surface => "surface"
  | lines => "lines"
  | points => "points"
  | circle => "circle"
  | spiral => "spiral"

/-- The number the shader knows a style by. -/
def shaderCode : VisualStyle → Nat
  | surface => 0
  | lines => 1
  | points => 2
  | circle => 3
  | spiral => 4

/-- The primitives that the indices of a style are read as. -/
def topology : VisualStyle → Topology
  | surface | circle | spiral => .triangles
  | lines => .lines
  | points => .points

/-- The style of a name. -/
def parse? (text : String) : Option VisualStyle := Name.find? name all text

/-- The next style in cycling order. -/
def next : VisualStyle → VisualStyle
  | surface => lines
  | lines => points
  | points => circle
  | circle => spiral
  | spiral => surface

end VisualStyle

/-- Everything the scene commands depend on besides the surface. -/
structure Scene where
  style : VisualStyle := .surface
  raster : RasterMode := .fill
deriving DecidableEq, Repr, Inhabited

/-- Style and raster mode, separated by `separator`. -/
def Scene.text (scene : Scene) (separator : String) : String :=
  scene.style.name ++ separator ++ scene.raster.name

end Waterfall

import Waterfall.Device.Extent
import Waterfall.Scene
import Waterfall.Spectrum.Layout

/-! # The camera

A fixed camera looks at a model that sways around the vertical axis. The transforms are four by four
matrices in column order, computed in single precision, and go to the shader together with the shape
of the history.
-/

namespace Waterfall

/-- A vector of three components. -/
structure Vector3 where
  x : Float32
  y : Float32
  z : Float32
deriving Inhabited

namespace Vector3

/-- The difference of two vectors. -/
def sub (left right : Vector3) : Vector3 :=
  ⟨left.x - right.x, left.y - right.y, left.z - right.z⟩

/-- The scalar product. -/
def dot (left right : Vector3) : Float32 :=
  left.x * right.x + left.y * right.y + left.z * right.z

/-- The vector product. -/
def cross (left right : Vector3) : Vector3 :=
  ⟨left.y * right.z - right.y * left.z, left.z * right.x - right.z * left.x,
    left.x * right.y - right.x * left.y⟩

/-- The vector of length one in the same direction; of the zero vector every component is NaN. -/
def normalize (vector : Vector3) : Vector3 :=
  let inverse := 1 / (vector.dot vector).sqrt
  ⟨vector.x * inverse, vector.y * inverse, vector.z * inverse⟩

end Vector3

/-- One column of a matrix. -/
structure Column where
  x : Float32
  y : Float32
  z : Float32
  w : Float32
deriving Inhabited

/-- A matrix of four columns. -/
structure Matrix4 where
  first : Column
  second : Column
  third : Column
  fourth : Column
deriving Inhabited

namespace Matrix4

/-- The entries, column by column. -/
def entries (matrix : Matrix4) : List Float32 :=
  [matrix.first, matrix.second, matrix.third, matrix.fourth].flatMap fun column =>
    [column.x, column.y, column.z, column.w]

/-- The matrix of zeros. -/
def zero : Matrix4 := ⟨⟨0, 0, 0, 0⟩, ⟨0, 0, 0, 0⟩, ⟨0, 0, 0, 0⟩, ⟨0, 0, 0, 0⟩⟩

/-- The rotation around the third axis. -/
def rotationZ (angle : Float32) : Matrix4 :=
  ⟨⟨angle.cos, angle.sin, 0, 0⟩, ⟨-angle.sin, angle.cos, 0, 0⟩, ⟨0, 0, 1, 0⟩, ⟨0, 0, 0, 1⟩⟩

/-- The right-handed view from `eye` to `target` with `up` above. -/
def lookAt (eye target up : Vector3) : Matrix4 :=
  let forward := (target.sub eye).normalize
  let side := (forward.cross up).normalize
  let above := side.cross forward
  ⟨⟨side.x, above.x, -forward.x, 0⟩, ⟨side.y, above.y, -forward.y, 0⟩,
    ⟨side.z, above.z, -forward.z, 0⟩,
    ⟨-(eye.dot side), -(eye.dot above), eye.dot forward, 1⟩⟩

/-- The right-handed perspective projection with depths from zero to one. -/
def perspective (fieldOfView aspectRatio near far : Float32) : Matrix4 :=
  let half := 0.5 * fieldOfView
  let height := half.cos / half.sin
  let width := height / aspectRatio
  let depth := far / (near - far)
  ⟨⟨width, 0, 0, 0⟩, ⟨0, height, 0, 0⟩, ⟨0, 0, depth, -1⟩, ⟨0, 0, depth * near, 0⟩⟩

end Matrix4

/-- The settings of the camera and of the model's sway; angles are in degrees. -/
structure Camera where
  eye : Vector3 := ⟨2, 2, 2⟩
  target : Vector3 := ⟨0, 0, 0⟩
  /-- Heights are drawn downwards along the third axis, so that is up. -/
  up : Vector3 := ⟨0, 0, -1⟩
  fieldOfView : Float32 := 45
  nearPlane : Float32 := Float32.ofBits 0x3dcccccd
  farPlane : Float32 := 10
  swayAmplitude : Float32 := 45
  /-- The sway's phase per second, in radians. -/
  swaySpeed : Float32 := 1

/-- What the shader is told about a frame. -/
structure Uniforms where
  model : Matrix4
  view : Matrix4
  projection : Matrix4
  vertexCount : Nat
  rowLength : Nat
  /-- Rows that hold real data; the others are zero rows ahead of them. -/
  rowCount : Nat
  time : Float32
  style : Nat

/-- The uniforms of a layout before the first frame: everything else is zero. -/
def Uniforms.zeroedFor (layout : Layout) : Except Breach Uniforms := do
  return {
    model := .zero, view := .zero, projection := .zero
    vertexCount := Word.truncate (← layout.points)
    rowLength := Word.truncate layout.rowLength
    rowCount := 0, time := 0, style := 0 }

namespace Camera

/-- An angle in radians. -/
def radians (degrees : Float32) : Float32 := degrees * Float32.ofBits 0x3c8efa35

/-- The rotation of the model at a time in seconds. -/
def modelMatrix (camera : Camera) (time : Float32) : Matrix4 :=
  .rotationZ (radians camera.swayAmplitude * (time * camera.swaySpeed).sin)

/-- The view from the camera. -/
def viewMatrix (camera : Camera) : Matrix4 := .lookAt camera.eye camera.target camera.up

/-- The camera's projection for a surface of that aspect ratio. -/
def projectionMatrix (camera : Camera) (aspectRatio : Float32) : Matrix4 :=
  .perspective (radians camera.fieldOfView) aspectRatio camera.nearPlane camera.farPlane

/-- The uniforms of a frame at a time in seconds. -/
def uniforms (camera : Camera) (time : Float32) (extent : Extent) (layout : Layout)
    (rowCount : Nat) (style : VisualStyle) : Except Breach Uniforms := do
  return {
    model := camera.modelMatrix time
    view := camera.viewMatrix
    projection := camera.projectionMatrix extent.aspectRatio
    vertexCount := Word.truncate (← layout.points)
    rowLength := Word.truncate layout.rowLength
    rowCount := Word.truncate rowCount
    time := time
    style := style.shaderCode }

end Camera

end Waterfall

import Waterfall.Fault

/-! # Device samples

A device delivers interleaved frames of one sample per channel, in one of three sample formats. They
are normalised to single precision and every frame is averaged into one mono sample.
-/

namespace Waterfall.Capture

/-- The format of a device's samples. -/
inductive SampleFormat
  /-- Single-precision numbers. -/
  | float
  /-- Signed 16-bit numbers. -/
  | signed
  /-- Unsigned 16-bit numbers around `32768`. -/
  | unsigned
deriving DecidableEq, Repr, Inhabited

/-- A whole number of at most 16 bits in single precision. -/
def ofInt (value : Int) : Float32 :=
  if value < 0 then -value.natAbs.toUInt64.toFloat32 else value.natAbs.toUInt64.toFloat32

/-- A signed 16-bit sample, normalised. -/
def normalizeSigned (sample : Int) : Float32 := ofInt sample / 32768

/-- An unsigned 16-bit sample, normalised. -/
def normalizeUnsigned (sample : Int) : Float32 := ofInt (sample - 32768) / 32768

/-- The average of one frame. The sum starts at negative zero, so a frame of negative zeros keeps
its sign. -/
def average (channels : Nat) (frame : List Float32) : Float32 :=
  frame.foldl (· + ·) (Float32.ofBits 0x80000000) / channels.toUInt64.toFloat32

/-- The averages of the first `frames` frames of a block. -/
def averagesOf (channels : Nat) : Nat → List Float32 → List Float32
  | 0, _ => []
  | frames + 1, block =>
    average channels (block.take channels) :: averagesOf channels frames (block.drop channels)

/-- The averages of the whole frames of a block; a trailing incomplete frame is left out. -/
def averages (channels : Nat) (block : List Float32) : List Float32 :=
  averagesOf channels (block.length / channels) block

/-- The contents of a mono buffer after a block was averaged into it, frame by frame. -/
def downmix (channels : Nat) (block buffer : List Float32) : Except Breach (List Float32) :=
  if channels = 0 then .error .noChannels
  else
    let mono := (averages channels block).take buffer.length
    .ok (mono ++ buffer.drop mono.length)

end Waterfall.Capture

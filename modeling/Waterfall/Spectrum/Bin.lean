/-! # Spectrum values

A bin is one complex value of a spectrum, in single precision. The operations are those of complex
numbers with every real product and sum rounded on its own, so infinities and numbers that are not
numbers spread exactly as the written formulas say.
-/

namespace Waterfall

/-- A complex spectrum value. -/
structure Bin where
  re : Float32
  im : Float32
deriving Inhabited

namespace Bin

/-- The zero bin. -/
def zero : Bin := ⟨0, 0⟩

/-- The bytes of one bin. -/
def bytes : Nat := 8

/-- The sum of two bins. -/
def add (left right : Bin) : Bin := ⟨left.re + right.re, left.im + right.im⟩

/-- The difference of two bins. -/
def sub (left right : Bin) : Bin := ⟨left.re - right.re, left.im - right.im⟩

/-- The product of two bins, of four real products. -/
def mul (left right : Bin) : Bin :=
  ⟨left.re * right.re - left.im * right.im, left.re * right.im + left.im * right.re⟩

/-- A bin with both components negated. -/
def neg (bin : Bin) : Bin := ⟨-bin.re, -bin.im⟩

/-- The conjugate of a bin. -/
def conj (bin : Bin) : Bin := ⟨bin.re, -bin.im⟩

/-- A bin turned clockwise by a quarter of a circle, without a product. -/
def quarterTurn (bin : Bin) : Bin := ⟨bin.im, -bin.re⟩

/-- Both components multiplied by a factor. -/
def scaleBy (bin : Bin) (factor : Float32) : Bin := ⟨bin.re * factor, bin.im * factor⟩

/-- The magnitude, computed without overflow or underflow; infinite if a component is. -/
def magnitude (bin : Bin) : Float32 :=
  if bin.re.isInf || bin.im.isInf then Float32.ofBits 0x7f800000
  else
    let re := bin.re.toFloat
    let im := bin.im.toFloat
    (re * re + im * im).sqrt.toFloat32

/-- The position of the loudest bin, the first one of several equally loud, among bins numbered from
`index` on. -/
def loudestFrom (index best : Nat) (loudest : Float32) : List Bin → Nat
  | [] => best
  | bin :: rest =>
    if loudest < bin.magnitude then loudestFrom (index + 1) index bin.magnitude rest
    else loudestFrom (index + 1) best loudest rest

/-- The position of the loudest bin. -/
def loudest : List Bin → Nat
  | [] => 0
  | bin :: rest => loudestFrom 1 0 bin.magnitude rest

end Bin

end Waterfall

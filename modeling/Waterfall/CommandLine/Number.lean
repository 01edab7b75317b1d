import Waterfall.Binary.Single
import Waterfall.Word

/-! # Numbers on the command line

Whole numbers are decimal digits after an optional sign, read from left to right, and the first
character that is no digit or makes the number too large decides the error. Real numbers may also
have a fraction and an exponent, or be one of the words for infinity and for no number.
-/

namespace Waterfall.CommandLine

/-- Why a text is not an accepted number. -/
inductive NumberFault
  | emptyInteger
  | invalidDigit
  | tooLarge
  | tooSmall
  /-- A whole number outside the 32-bit range. -/
  | outside (value : Int)
  | emptyReal
  | invalidReal
deriving DecidableEq, Repr

/-- The largest number of 32 bits. -/
def largestIndex : Int := Word.indexLimit - 1

/-- The fault in words. -/
def NumberFault.text : NumberFault → String
  | emptyInteger => "cannot parse integer from empty string"
  | invalidDigit => "invalid digit found in string"
  | tooLarge => "number too large to fit in target type"
  | tooSmall => "number too small to fit in target type"
  | outside value => s!"{value} is not in 0..={largestIndex}"
  | emptyReal => "cannot parse float from empty string"
  | invalidReal => "invalid float literal"

/-- The value of a decimal digit. -/
def digitValue (digit : Char) : Nat := digit.toNat - '0'.toNat

/-- The number that `digits` continue, as long as it is at most `limit`. -/
def readDigits (limit : Nat) (beyond : NumberFault) :
    Nat → List Char → Except NumberFault Nat
  | value, [] => .ok value
  | value, digit :: rest =>
    if !digit.isDigit then .error .invalidDigit
    else if limit < 10 * value + digitValue digit then .error beyond
    else readDigits limit beyond (10 * value + digitValue digit) rest

/-- The number after a sign, which needs at least one digit. -/
def readMagnitude (limit : Nat) (beyond : NumberFault) (digits : List Char) :
    Except NumberFault Nat :=
  if digits = [] then .error .invalidDigit else readDigits limit beyond 0 digits

/-- A 64-bit count. -/
def readCount (text : String) : Except NumberFault Nat :=
  match text.toList with
  | [] => .error .emptyInteger
  | '+' :: digits => readMagnitude (Word.countLimit - 1) .tooLarge digits
  | digits => readDigits (Word.countLimit - 1) .tooLarge 0 digits

/-- A signed 64-bit number. -/
def readInteger (text : String) : Except NumberFault Int :=
  match text.toList with
  | [] => .error .emptyInteger
  | '-' :: digits => do return -(← readMagnitude Word.signedLimit .tooSmall digits)
  | '+' :: digits => do return ← readMagnitude (Word.signedLimit - 1) .tooLarge digits
  | digits => do return ← readDigits (Word.signedLimit - 1) .tooLarge 0 digits

/-- A 32-bit number, read as a signed 64-bit one first. -/
def readIndex (text : String) : Except NumberFault Nat := do
  let value ← readInteger text
  if 0 ≤ value ∧ value ≤ largestIndex then
    return value.toNat
  else throw (.outside value)

/-- The value of a list of decimal digits. -/
def decimalValue (digits : List Char) : Nat :=
  digits.foldl (fun value digit => 10 * value + digitValue digit) 0

/-- The number that an exponent part stands for; an absent part stands for zero. -/
def readExponent : List Char → Option Int
  | [] => some 0
  | mark :: rest =>
    if mark ≠ 'e' ∧ mark ≠ 'E' then none
    else
      let (negative, digits) := match rest with
        | '-' :: digits => (true, digits)
        | '+' :: digits => (false, digits)
        | digits => (false, digits)
      if digits = [] ∨ !digits.all Char.isDigit then none
      else some (if negative then -(decimalValue digits : Int) else decimalValue digits)

/-- A decimal with an optional fraction and an optional exponent. -/
def readDecimal (negative : Bool) (text : List Char) : Option Float32 := do
  let whole := text.takeWhile Char.isDigit
  let (fraction, rest) := match text.dropWhile Char.isDigit with
    | '.' :: rest => (rest.takeWhile Char.isDigit, rest.dropWhile Char.isDigit)
    | rest => ([], rest)
  let exponent ← readExponent rest
  if whole = [] ∧ fraction = [] then none
  else
    some (Binary.ofDecimal negative (decimalValue (whole ++ fraction))
      (exponent - fraction.length))

/-- The bit pattern that stands for no number. -/
def notANumber : Float32 := Float32.ofBits 0x7fc00000

/-- A real number after its sign. -/
def readUnsignedReal (negative : Bool) (text : List Char) : Option Float32 :=
  let word := String.ofList (text.map Char.toLower)
  if word = "inf" ∨ word = "infinity" then some (Binary.signed negative Binary.infinityBits)
  else if word = "nan" then some notANumber
  else readDecimal negative text

/-- A real number in single precision. -/
def readReal (text : String) : Except NumberFault Float32 :=
  match text.toList with
  | [] => .error .emptyReal
  | characters =>
    let value := match characters with
      | '-' :: rest => readUnsignedReal true rest
      | '+' :: rest => readUnsignedReal false rest
      | _ => readUnsignedReal false characters
    match value with
    | some value => .ok value
    | none => .error .invalidReal

end Waterfall.CommandLine

/-! # Fingerprints

A fingerprint stands for a list that is too long to be shown. It is a 64-bit hash: for every byte,
the hash is combined with the byte by exclusive or and multiplied by a fixed prime.
-/

namespace Waterfall.Digest

/-- The fingerprint of no bytes. -/
def basis : UInt64 := 0xcbf29ce484222325

/-- The prime that spreads every byte over the hash. -/
def prime : UInt64 := 0x100000001b3

/-- The fingerprint with one more byte. -/
def addByte (hash : UInt64) (byte : Nat) : UInt64 := (hash ^^^ UInt64.ofNat byte) * prime

/-- The fingerprint with one more 32-bit word, its low byte first. -/
def addWord (hash : UInt64) (word : Nat) : UInt64 :=
  [0, 8, 16, 24].foldl (fun hash shift => addByte hash (word >>> shift % 256)) hash

/-- The last `width` hexadecimal digits of a number, leading zeros included. -/
def hexDigits : Nat → Nat → List Char
  | 0, _ => []
  | width + 1, value => hexDigits width (value / 16) ++ [Nat.digitChar (value % 16)]

/-- A number in `width` hexadecimal digits. -/
def hex (width value : Nat) : String := String.ofList (hexDigits width value)

/-- The fingerprint of a list of 32-bit words. -/
def ofWords (words : List Nat) : String := hex 16 (words.foldl addWord basis).toNat

end Waterfall.Digest

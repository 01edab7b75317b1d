import Waterfall.Fault

/-! # Machine words

Counts are natural numbers in this library; where a count has to fit a machine word the operations
here say so. A 64-bit count that does not fit is a breach. A 32-bit vertex number is truncated when
it is made from a count, and a sum of two such numbers that does not fit is a breach.
-/

namespace Waterfall.Word

/-- One more than the largest 64-bit count. -/
def countLimit : Nat := Nat.pow 2 64

/-- One more than the largest 32-bit number. -/
def indexLimit : Nat := Nat.pow 2 32

/-- One more than the largest signed 64-bit number. -/
def signedLimit : Nat := Nat.pow 2 63

/-- One more than the largest number of bytes one allocation can have. -/
def storageLimit : Nat := signedLimit

/-- One more than the largest number of bytes the system grants on request. -/
def addressLimit : Nat := Nat.pow 2 47

/-- A count, provided that it fits. -/
def count (value : Nat) : Except Breach Nat :=
  if value < countLimit then .ok value else .error .overflow

/-- The product of two counts, provided that it fits. -/
def mul (left right : Nat) : Except Breach Nat := count (left * right)

/-- The sum of two counts, provided that it fits. -/
def add (left right : Nat) : Except Breach Nat := count (left + right)

/-- The low 32 bits of a count. -/
def truncate (value : Nat) : Nat := value % indexLimit

/-- The sum of two 32-bit numbers, provided that it fits. -/
def addIndex (left right : Nat) : Except Breach Nat :=
  if left + right < indexLimit then .ok (left + right) else .error .overflow

/-- The bytes of one sample. -/
def sampleBytes : Nat := 4

/-- `items` objects of `size` bytes each can be stored together. -/
def reserve (items size : Nat) : Except Breach Unit :=
  if items * size < storageLimit then .ok () else .error .overflow

/-- The system grants `bytes`, provided that they can be addressed. -/
def grant (bytes : Nat) : Except Breach Unit :=
  if bytes < addressLimit then .ok () else .error .outOfMemory

end Waterfall.Word

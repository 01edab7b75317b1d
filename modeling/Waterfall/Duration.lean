/-! # Durations and their text

A duration is a whole number of nanoseconds. Its text uses the largest unit in which the value is
at least one, with the fraction's trailing zeros dropped: `2s`, `1.5s`, `15ms`, `1.5µs`, `0ns`.
-/

namespace Waterfall

/-- A span of time, counted in nanoseconds. -/
structure Duration where
  nanoseconds : Nat
deriving DecidableEq, Repr, Inhabited

namespace Duration

/-- The duration of `count` milliseconds. -/
def ofMilliseconds (count : Nat) : Duration := ⟨count * 1000000⟩

/-- The duration of `seconds` seconds and `nanoseconds` nanoseconds, unless its whole seconds exceed
64 bits. -/
def ofSeconds? (seconds nanoseconds : Nat) : Option Duration :=
  if seconds + nanoseconds / 1000000000 < Nat.pow 2 64 then
    some ⟨seconds * 1000000000 + nanoseconds⟩
  else none

/-- The whole milliseconds contained in a duration. -/
def milliseconds (duration : Duration) : Nat := duration.nanoseconds / 1000000

/-- The `places` decimal digits of `value`, most significant first, leading zeros included. -/
def fractionDigits : Nat → Nat → List Char
  | 0, _ => []
  | places + 1, value => fractionDigits places (value / 10) ++ [Nat.digitChar (value % 10)]

/-- Decimal digits without their trailing zeros. -/
def dropTrailingZeros (digits : List Char) : List Char :=
  (digits.reverse.dropWhile (· == '0')).reverse

/-- `value` counted in units of `10 ^ places`, as a decimal without trailing zeros. -/
def scaledText (value places : Nat) : String :=
  let whole := toString (value / Nat.pow 10 places)
  match dropTrailingZeros (fractionDigits places (value % Nat.pow 10 places)) with
  | [] => whole
  | digits => whole ++ "." ++ String.ofList digits

/-- The text of a duration in the largest unit that is not larger than it. -/
def text (duration : Duration) : String :=
  if 1000000000 ≤ duration.nanoseconds then scaledText duration.nanoseconds 9 ++ "s"
  else if 1000000 ≤ duration.nanoseconds then scaledText duration.nanoseconds 6 ++ "ms"
  else if 1000 ≤ duration.nanoseconds then scaledText duration.nanoseconds 3 ++ "µs"
  else scaledText duration.nanoseconds 0 ++ "ns"

end Duration

end Waterfall

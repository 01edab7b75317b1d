import Waterfall.Program

/-! # The command -/

open Waterfall

/-- Print what a call of the program prints, and return its exit code. -/
def main (arguments : List String) : IO UInt32 := do
  let outcome := Program.run arguments Program.noDisplay
  let stdout ← IO.getStdout
  let stderr ← IO.getStderr
  stdout.putStr outcome.stdout
  for line in outcome.log do
    stderr.putStrLn ("[" ++ line)
  for line in outcome.stderr do
    stderr.putStrLn line
  return UInt32.ofNat outcome.code

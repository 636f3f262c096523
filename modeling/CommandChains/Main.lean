import CommandChains.CommandLine.Program

/-!
# The command line

Hands arguments, input and the log filter of the surroundings to the program and
passes on what it leaves behind.
-/

open CommandChains

/-- Runs the program on the real input and output. -/
def main (arguments : List String) : IO UInt32 := do
  let input ← (← IO.getStdin).readBinToEnd
  let logFilter ← IO.getEnv "RUST_LOG"
  let finish := CommandLine.perform { arguments, input := input.toList, logFilter }
  (← IO.getStdout).write ⟨finish.output.toArray⟩
  (← IO.getStderr).write ⟨finish.errors.toArray⟩
  pure (UInt32.ofNat finish.exitCode)

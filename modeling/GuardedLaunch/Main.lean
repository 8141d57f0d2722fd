import GuardedLaunch.Kernel.History
import GuardedLaunch.Program

/-!
# Command line

Runs the standard build on a kernel that replaces no process image. What is
printed and the exit code are those of a launch whose interpreter could not be
started.

- `main`: the entry point.
-/

namespace GuardedLaunch

/-- Run the program on a command line whose slot 0 is left out. -/
def Program.runArguments (arguments : List String) : Output :=
  Program.inStages .standard (utf8 "invoke" :: arguments.map utf8) true
    (Kernel.initial.configure { execErrno := some ⟨38⟩ })

end GuardedLaunch

open GuardedLaunch in
/-- Print what the program prints, and exit as it does. -/
def main (arguments : List String) : IO UInt32 := do
  let output := Program.runArguments arguments
  (← IO.getStderr).putStr output.stderr
  (← IO.getStdout).putStr output.stdout
  match output.ending with
  | .exited code => return code.toUInt32
  | .killed signal => return (128 + signal).toUInt32

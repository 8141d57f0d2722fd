import GuardedLaunch.Environment
import GuardedLaunch.Identity

/-!
# Answers

The operations of the library differ in what they give back. An answer is any of
these results, so that a sequence of different operations has one list of
answers.

- `Answer`: the kinds of result.
-/

namespace GuardedLaunch

/-- What an operation gives back. -/
inductive Answer where
  /-- It succeeded, and there is nothing to report. -/
  | passed
  | arguments (argv : List Bytes)
  | environment (env : Environment)
  | identity (identity : Identity)
  | failed (failure : Failure)
  deriving DecidableEq

namespace Answer

/-- The answer of an operation that may fail. -/
def ofExcept {α : Type} (report : α → Answer) : Except Failure α → Answer
  | .ok value => report value
  | .error failure => .failed failure

/-- The answer of a check. -/
def ofCheck : Except Failure Unit → Answer :=
  ofExcept fun () => passed

end Answer

end GuardedLaunch

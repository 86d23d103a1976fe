import LexKit.Program.Input
import LexKit.Scan.Fault

/-!
What can end the program before its work is done.
-/

namespace LexKit

/-- A failure of the program. -/
inductive Failure where
  /-- The input could not be read, for the reason given. -/
  | input (path reason : Text)
  /-- The text of the input is not made of tokens. -/
  | scan (path : Text) (fault : Fault)
  /-- The tokens could not be written, for the reason given. -/
  | output (reason : Text)
  deriving DecidableEq

/-- A failure as it is shown.  A defect of the automaton is not blamed on the input. -/
def Failure.render : Failure → Text
  | input path reason => path ++ ": ".toList ++ reason
  | scan path fault =>
      path ++ ": ".toList ++ fault.render ++
        if fault.cause.isDefect then " This is a bug in the tokenizer.".toList else []
  | output reason => "failed to serialize tokens: ".toList ++ reason

end LexKit

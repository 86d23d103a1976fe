import LexKit.Automaton.Basic
import LexKit.Scan.Position

/-!
Why and where a text could not be divided into tokens.
-/

namespace LexKit

/-- The reason for which scanning stopped. -/
inductive FaultCause where
  /-- No transition handles the input, which is a character or the end. -/
  | unmatched (input : Option Char)
  /-- The transition that was taken fails with this message. -/
  | explicit (message : Text)
  /-- The transition that was taken is undecided. -/
  | missingDestination
  deriving DecidableEq

namespace FaultCause

/-- Only an undecided transition is a defect of the automaton; all else is the fault of the text. -/
def isDefect : FaultCause → Bool
  | missingDestination => true
  | _ => false

/-- The reason as it is shown.  A message stands as it was given. -/
def render : FaultCause → Text
  | unmatched (some c) =>
      "no suitable transition found for '".toList ++ escapeChar c ++ ['\x27']
  | unmatched none => "no suitable transition found for end of input".toList
  | explicit message => message
  | missingDestination => "transition does not lead to a next state".toList

end FaultCause

/-- A reason with the place of the input and the state in which it arose. -/
structure Fault where
  cause : FaultCause
  pos : SourcePos
  offset : Nat
  state : StateId
  deriving DecidableEq

def Fault.render (fault : Fault) : Text :=
  fault.pos.render ++ " (".toList ++ fault.state.render ++ ") - ".toList ++ fault.cause.render ++
    ['.']

end LexKit

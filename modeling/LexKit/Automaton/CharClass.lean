import LexKit.Text.Escape

/-!
Character classes: the guards of an automaton.

A scanner looks at one character at a time, or at the end of the input, which is written `none`.
Letters and digits are those of ASCII.
-/

namespace LexKit

/-- The inputs that a transition reacts to. -/
inductive CharClass where
  /-- One of the listed characters. -/
  | oneOf (characters : Text)
  | lowerLetter
  | upperLetter
  | letter
  | digit
  | letterOrDigit
  | endOfInput
  /-- Every character, and the end of the input as well. -/
  | any
  deriving DecidableEq

def isLowerLetter (c : Char) : Bool :=
  'a' ≤ c && c ≤ 'z'

def isUpperLetter (c : Char) : Bool :=
  'A' ≤ c && c ≤ 'Z'

def isDecimalDigit (c : Char) : Bool :=
  '0' ≤ c && c ≤ '9'

namespace CharClass

def holds : CharClass → Char → Bool
  | oneOf characters, c => characters.contains c
  | lowerLetter, c => isLowerLetter c
  | upperLetter, c => isUpperLetter c
  | letter, c => isLowerLetter c || isUpperLetter c
  | digit, c => isDecimalDigit c
  | letterOrDigit, c => isLowerLetter c || isUpperLetter c || isDecimalDigit c
  | endOfInput, _ => false
  | any, _ => true

def holdsEnd : CharClass → Bool
  | endOfInput | any => true
  | _ => false

/-- Whether the class reacts to an input. -/
def handles (charClass : CharClass) : Option Char → Bool
  | some c => charClass.holds c
  | none => charClass.holdsEnd

/-- A class as it is shown: listed characters between double quotes, other classes by name. -/
def render : CharClass → Text
  | oneOf characters => ['"'] ++ characters.flatMap escapeChar ++ ['"']
  | lowerLetter => "lower case letter".toList
  | upperLetter => "upper case letter".toList
  | letter => "letter".toList
  | digit => "digit".toList
  | letterOrDigit => "letter or digit".toList
  | endOfInput => "end of input".toList
  | any => "any".toList

end CharClass

end LexKit

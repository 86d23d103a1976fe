import LexKit.Lexers.Blank
import LexKit.Token.Kind

/-!
The lexer for arithmetic: whole numbers, identifiers, operators and parentheses.
-/

namespace LexKit.Arithmetic

inductive Kind where
  | number
  | identifier
  | operator
  | openParens
  | closeParens
  | whitespace
  deriving DecidableEq

/-- White space is the only trivia. -/
instance : TokenKind Kind where
  name
    | .number => "number".toList
    | .identifier => "identifier".toList
    | .operator => "operator".toList
    | .openParens => "open-parens".toList
    | .closeParens => "close-parens".toList
    | .whitespace => "whitespace".toList
  isTrivia kind := kind == .whitespace

def Kind.all : List Kind :=
  [.number, .identifier, .operator, .openParens, .closeParens, .whitespace]

open Design

/-- A number is a run of digits, and a point after it is refused. -/
def numbers : Design Kind Unit := do
  let number ← onMoveToNew StateId.start .digit
  onStay number .digit
  onFail number (.oneOf ['.']) "floating point not supported".toList
  otherwiseEmit number .number

/-- An identifier starts with a letter or an underscore and goes on with digits as well. -/
def identifiers : Design Kind Unit := do
  let identifier ← onMoveToNew StateId.start .letter
  onMoveTo StateId.start (.oneOf ['_']) identifier
  onStay identifier .letterOrDigit
  onStay identifier (.oneOf ['_'])
  otherwiseEmit identifier .identifier

/-- Operators and parentheses are single characters. -/
def symbols : Design Kind Unit := do
  onEmit StateId.start (.oneOf "+-*/%^=".toList) .operator
  onEmit StateId.start (.oneOf ['(']) .openParens
  onEmit StateId.start (.oneOf [')']) .closeParens

def automaton : Automaton Kind :=
  Design.automaton do
    blanks .whitespace
    numbers
    identifiers
    symbols

end LexKit.Arithmetic

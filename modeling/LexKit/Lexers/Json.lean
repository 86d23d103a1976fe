import LexKit.Lexers.Blank
import LexKit.Token.Kind

/-!
The lexer for JSON.  It knows the words of the language and nothing of the structure of a document.
String tokens keep their quotes and their escapes.
-/

namespace LexKit.Json

inductive Kind where
  | punctuation
  | string
  | number
  | keyword
  | whitespace
  deriving DecidableEq

/-- White space is the only trivia. -/
instance : TokenKind Kind where
  name
    | .punctuation => "punctuation".toList
    | .string => "string".toList
    | .number => "number".toList
    | .keyword => "keyword".toList
    | .whitespace => "whitespace".toList
  isTrivia kind := kind == .whitespace

def Kind.all : List Kind :=
  [.punctuation, .string, .number, .keyword, .whitespace]

/-- The characters that structure a document. -/
def punctuationCharacters : Text := "\x7b\x7d[]:,".toList

/-- The characters that may follow a backslash in a string. -/
def escapeCharacters : Text := "\"\\/bfnrtu".toList

/-- The words of JSON. -/
def keywords : List Text := ["true".toList, "false".toList, "null".toList]

open Design

/-- A string runs to the next quote that no backslash precedes. -/
def strings : Design Kind Unit := do
  let string ← onMoveToNew StateId.start (.oneOf ['"'])
  onEmit string (.oneOf ['"']) .string
  let escape ← onMoveToNew string (.oneOf ['\\'])
  onMoveTo escape (.oneOf escapeCharacters) string
  onFail escape .any "invalid escape sequence".toList
  onFail string .endOfInput "unterminated string".toList
  onStay string .any

/-- A number is an integer, perhaps with a sign before it and a fraction after it. -/
def numbers : Design Kind Unit := do
  let integer ← onMoveToNew StateId.start .digit
  let sign ← onMoveToNew StateId.start (.oneOf ['-'])
  onMoveTo sign .digit integer
  onFail sign .any "expected a digit after the minus sign".toList
  onStay integer .digit
  let point ← onMoveToNew integer (.oneOf ['.'])
  otherwiseEmit integer .number
  let fraction ← onMoveToNew point .digit
  onFail point .any "expected a digit after the decimal point".toList
  onStay fraction .digit
  otherwiseEmit fraction .number

/-- A chain of states from the given one that spells a word. -/
def keyword (state : StateId) : Text → Design Kind Unit
  | [] => pure ()
  | [c] => onEmit state (.oneOf [c]) .keyword
  | c :: rest => do
      let next ← onMoveToNew state (.oneOf [c])
      keyword next rest

def automaton : Automaton Kind :=
  Design.automaton do
    blanks .whitespace
    onEmit StateId.start (.oneOf punctuationCharacters) .punctuation
    strings
    numbers
    keywords.forM (keyword StateId.start)

end LexKit.Json

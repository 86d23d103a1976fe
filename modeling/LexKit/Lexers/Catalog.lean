import LexKit.Lexers.Arithmetic
import LexKit.Lexers.Json

/-!
The lexers that can be asked for by name.
-/

namespace LexKit

inductive Lexer where
  | arithmetic
  | json
  deriving DecidableEq

namespace Lexer

/-- The lexer for those who ask for none. -/
def standard : Lexer := .arithmetic

def all : List Lexer := [.arithmetic, .json]

def name : Lexer → Text
  | .arithmetic => "arithmetic".toList
  | .json => "json".toList

def ofName? (name : Text) : Option Lexer :=
  all.find? (·.name == name)

end Lexer

/-- What is said about a name that no lexer has. -/
def unknownLexerMessage (name : Text) : Text :=
  "unknown lexer '".toList ++ name ++ "', expected one of: ".toList ++
    Text.join ", ".toList (Lexer.all.map Lexer.name)

end LexKit

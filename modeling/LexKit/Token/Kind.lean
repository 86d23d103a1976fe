import LexKit.Text.Basic

/-!
Kinds of tokens.  A lexer has its own type of kinds; what the rest of the library needs of it is a
name to show and whether tokens of that kind matter to a parser.
-/

namespace LexKit

class TokenKind (κ : Type) where
  /-- The name under which a kind is shown and written. -/
  name : κ → Text
  /-- Whether tokens of this kind carry no meaning for a parser, like white space. -/
  isTrivia : κ → Bool

/-- A kind that is nothing but its name. -/
structure Label where
  name : Text
  deriving DecidableEq

/-- A label marks trivia by a leading underscore. -/
instance : TokenKind Label where
  name label := label.name
  isTrivia label := label.name.head? == some '_'

end LexKit

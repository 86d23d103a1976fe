import LexKit.Text.Escape
import LexKit.Text.Lowercase
import LexKit.Token.Kind

/-!
Tokens: a kind, and the characters from which the token was made.
-/

namespace LexKit

structure Token (κ : Type) where
  kind : κ
  value : Text
  deriving DecidableEq

namespace Token

variable {κ : Type}

/-- Whether the token has the given value, letter case counting or not. -/
def valueMatches (token : Token κ) (value : Text) (caseSensitive : Bool) : Bool :=
  if caseSensitive then token.value == value else Text.sameIgnoringCase token.value value

def hasKindAndValue [DecidableEq κ] (token : Token κ) (kind : κ) (value : Text)
    (caseSensitive : Bool) : Bool :=
  token.kind == kind && token.valueMatches value caseSensitive

/-- Whether the token is exactly the one with the given kind and value. -/
def is [DecidableEq κ] (token : Token κ) (kind : κ) (value : Text) : Bool :=
  token.hasKindAndValue kind value true

/-- Whether the token carries no meaning for a parser. -/
def isTrivia [TokenKind κ] (token : Token κ) : Bool :=
  TokenKind.isTrivia token.kind

/-- A token as it is shown: its kind, and its value between single quotes. -/
def render [TokenKind κ] (token : Token κ) : Text :=
  TokenKind.name token.kind ++ [' '] ++ singleQuoted token.value

end Token

end LexKit

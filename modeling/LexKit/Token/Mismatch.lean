import LexKit.Token.Basic

/-!
What a consumer of tokens expected, and how the tokens failed to meet it.
-/

namespace LexKit

/-- A consumer expects one kind, or any of several. -/
inductive Expected (κ : Type) where
  | kind (kind : κ)
  | kinds (kinds : List κ)
  deriving DecidableEq

/-- How an expectation was not met. -/
inductive Mismatch (κ : Type) where
  /-- There is no token left. -/
  | exhausted (expected : Expected κ)
  /-- The token is of another kind. -/
  | kind (token : Token κ) (expected : Expected κ)
  /-- The token is of the right kind and has another value. -/
  | value (token : Token κ) (expected : Text)
  deriving DecidableEq

variable {κ : Type}

/-- The token that did not meet the expectation, if there was one. -/
def Mismatch.token? : Mismatch κ → Option (Token κ)
  | exhausted _ => none
  | kind token _ | value token _ => some token

def Expected.render [TokenKind κ] : Expected κ → Text
  | kind expected => TokenKind.name expected
  | kinds [] => "nothing".toList
  | kinds expected => Text.join " or ".toList (expected.map TokenKind.name)

def Mismatch.render [TokenKind κ] : Mismatch κ → Text
  | exhausted expected => "unexpected end of tokens, expected ".toList ++ expected.render
  | kind token expected =>
      "unexpected token ".toList ++ token.render ++ ", expected ".toList ++ expected.render
  | value token expected =>
      "unexpected token ".toList ++ token.render ++ ", expected ".toList ++ singleQuoted expected

end LexKit

import LexKit.Token.Mismatch

/-!
Tokens in order, with a position from which a parser consumes them.

The position may lie behind the last token; then there is no token to look at.  Looking leaves the
position alone, and taking moves it forward by one whatever is found.  Only `takeIf` moves it on
condition.
-/

namespace LexKit

/-- Tokens, and how many of them have been taken. -/
structure TokenQueue (κ : Type) where
  tokens : List (Token κ)
  position : Nat := 0
  deriving DecidableEq

namespace TokenQueue

variable {κ : Type}

def ofTokens (tokens : List (Token κ)) : TokenQueue κ := { tokens }

def empty : TokenQueue κ := ofTokens []

/-- How many tokens there are, wherever the position is. -/
def size (queue : TokenQueue κ) : Nat :=
  queue.tokens.length

def isEmpty (queue : TokenQueue κ) : Bool :=
  queue.tokens.isEmpty

def isExhausted (queue : TokenQueue κ) : Bool :=
  queue.size ≤ queue.position

/-- The tokens that have not been taken. -/
def remaining (queue : TokenQueue κ) : List (Token κ) :=
  queue.tokens.drop queue.position

def reset (queue : TokenQueue κ) : TokenQueue κ :=
  { queue with position := 0 }

def advance (queue : TokenQueue κ) : TokenQueue κ :=
  { queue with position := queue.position + 1 }

def peek? (queue : TokenQueue κ) : Option (Token κ) :=
  queue.tokens[queue.position]?

theorem peek?_eq_head?_remaining (queue : TokenQueue κ) :
    queue.peek? = queue.remaining.head? := by
  simp [peek?, remaining]

theorem isExhausted_iff_remaining (queue : TokenQueue κ) :
    queue.isExhausted = true ↔ queue.remaining = [] := by
  rw [isExhausted, decide_eq_true_iff, remaining, List.drop_eq_nil_iff, size]

@[simp]
theorem remaining_reset (queue : TokenQueue κ) : queue.reset.remaining = queue.tokens := by
  simp [remaining, reset]

@[simp]
theorem remaining_advance (queue : TokenQueue κ) :
    queue.advance.remaining = queue.remaining.tail := by
  simp [remaining, advance]

/-- Take the token at the position.  The position moves even if there is none. -/
def take (queue : TokenQueue κ) : Option (Token κ) × TokenQueue κ :=
  (queue.peek?, queue.advance)

section Expectations

variable [DecidableEq κ]

/-- The token at the position, which must be of the given kind if there is one. -/
def peekAs (queue : TokenQueue κ) (kind : κ) : Except (Mismatch κ) (Option (Token κ)) :=
  match queue.peek? with
  | none => .ok none
  | some token =>
      if token.kind = kind then .ok (some token) else .error (.kind token (.kind kind))

/-- Take the token at the position, which must be of the given kind if there is one. -/
def takeAs (queue : TokenQueue κ) (kind : κ) :
    Except (Mismatch κ) (Option (Token κ)) × TokenQueue κ :=
  (queue.peekAs kind, queue.advance)

/-- Whether there is a token at the position with the given kind and value. -/
def peekIs (queue : TokenQueue κ) (kind : κ) (value : Text) (caseSensitive : Bool) : Bool :=
  queue.peek?.any (·.hasKindAndValue kind value caseSensitive)

/-- Take the token at the position if it has the given kind and value; tell whether it has. -/
def takeIf (queue : TokenQueue κ) (kind : κ) (value : Text) (caseSensitive : Bool) :
    Bool × TokenQueue κ :=
  if queue.peekIs kind value caseSensitive then (true, queue.advance) else (false, queue)

/-- Take a token, which must be there and of the given kind. -/
def expect (queue : TokenQueue κ) (kind : κ) :
    Except (Mismatch κ) (Token κ) × TokenQueue κ :=
  match queue.takeAs kind with
  | (.ok (some token), rest) => (.ok token, rest)
  | (.ok none, rest) => (.error (.exhausted (.kind kind)), rest)
  | (.error mismatch, rest) => (.error mismatch, rest)

/-- Take a token, which must be there and have the given kind and value. -/
def expectValue (queue : TokenQueue κ) (kind : κ) (value : Text) (caseSensitive : Bool) :
    Except (Mismatch κ) (Token κ) × TokenQueue κ :=
  match queue.expect kind with
  | (.ok token, rest) =>
      if token.valueMatches value caseSensitive then (.ok token, rest)
      else (.error (.value token value), rest)
  | failed => failed

/-- Take a token, which must be there and of one of the given kinds. -/
def expectKinds (queue : TokenQueue κ) (kinds : List κ) :
    Except (Mismatch κ) (Token κ) × TokenQueue κ :=
  match queue.take with
  | (some token, rest) =>
      if kinds.contains token.kind then (.ok token, rest)
      else (.error (.kind token (.kinds kinds)), rest)
  | (none, rest) => (.error (.exhausted (.kinds kinds)), rest)

end Expectations

/-! ### Removing tokens -/

/-- A fresh queue without the tokens for which the test holds. -/
def without (queue : TokenQueue κ) (removes : Token κ → Bool) : TokenQueue κ :=
  .ofTokens (queue.tokens.filter fun token => !removes token)

/-- A fresh queue without the tokens for which the test, which sees each token with its index,
holds. -/
def withoutIdx (queue : TokenQueue κ) (removes : Nat → Token κ → Bool) : TokenQueue κ :=
  .ofTokens ((queue.tokens.zipIdx.filter fun (token, index) => !removes index token).map (·.1))

def withoutTrivia [TokenKind κ] (queue : TokenQueue κ) : TokenQueue κ :=
  queue.without Token.isTrivia

end TokenQueue

end LexKit

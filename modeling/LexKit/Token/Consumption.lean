import LexKit.Token.Document

/-!
Whole sequences of operations on a token queue, as data.  Each operation gives an answer and the
queue with which the next one goes on.
-/

namespace LexKit

/-- Which tokens are to be removed. -/
inductive Removal (κ : Type) where
  /-- Those of the given kinds. -/
  | kinds (kinds : List κ)
  /-- Those with the given value. -/
  | value (value : Text) (caseSensitive : Bool)
  /-- Each one whose place, counted from one, is a multiple of the given number. -/
  | everyNth (n : Nat)
  | all
  | none
  deriving DecidableEq

/-- Whether the token at an index is to be removed. -/
def Removal.applies {κ : Type} [DecidableEq κ] (removal : Removal κ) (index : Nat)
    (token : Token κ) : Bool :=
  match removal with
  | .kinds removed => removed.contains token.kind
  | .value removed caseSensitive => token.valueMatches removed caseSensitive
  | .everyNth n => (index + 1) % n == 0
  | .all => true
  | .none => false

inductive QueueOp (κ : Type) where
  | peek
  | peekKind
  | peekValue
  | peekAs (kind : κ)
  | peekIs (kind : κ) (value : Text) (caseSensitive : Bool)
  | take
  | takeKind
  | takeValue
  | takeAs (kind : κ)
  | takeIf (kind : κ) (value : Text) (caseSensitive : Bool)
  | expect (kind : κ)
  | expectValue (kind : κ) (value : Text) (caseSensitive : Bool)
  | expectKinds (kinds : List κ)
  | reset
  | size
  | isEmpty
  | isExhausted
  | tokens
  | remaining
  /-- Show the queue without some tokens. -/
  | preview (removal : Removal κ)
  /-- Go on with the queue without some tokens. -/
  | remove (removal : Removal κ)
  /-- Go on with a queue without tokens. -/
  | clear
  /-- Whether the queue is as good as new. -/
  | isFresh
  | json
  | prettyJson
  deriving DecidableEq

inductive QueueAnswer (κ : Type) where
  | done
  | flag (value : Bool)
  | count (value : Nat)
  | text (value : Text)
  | token (token : Option (Token κ))
  | kind (kind : Option κ)
  | value (value : Option Text)
  | tokens (tokens : List (Token κ))
  | queue (queue : TokenQueue κ)
  | mismatch (mismatch : Mismatch κ)
  deriving DecidableEq

namespace TokenQueue

variable {κ : Type}

/-- The answer that tells of a token, or of the failure to find one. -/
def answerToken : Except (Mismatch κ) (Option (Token κ)) → QueueAnswer κ
  | .ok token => .token token
  | .error mismatch => .mismatch mismatch

variable [DecidableEq κ]

def removing (queue : TokenQueue κ) (removal : Removal κ) : TokenQueue κ :=
  queue.withoutIdx removal.applies

variable [TokenKind κ]

def perform (queue : TokenQueue κ) : QueueOp κ → QueueAnswer κ × TokenQueue κ
  | .peek => (.token queue.peek?, queue)
  | .peekKind => (.kind (queue.peek?.map (·.kind)), queue)
  | .peekValue => (.value (queue.peek?.map (·.value)), queue)
  | .peekAs kind => (answerToken (queue.peekAs kind), queue)
  | .peekIs kind value caseSensitive => (.flag (queue.peekIs kind value caseSensitive), queue)
  | .take => queue.take.map .token id
  | .takeKind => queue.take.map (fun token => .kind (token.map (·.kind))) id
  | .takeValue => queue.take.map (fun token => .value (token.map (·.value))) id
  | .takeAs kind => (queue.takeAs kind).map answerToken id
  | .takeIf kind value caseSensitive => (queue.takeIf kind value caseSensitive).map .flag id
  | .expect kind => (queue.expect kind).map (fun found => answerToken (found.map some)) id
  | .expectValue kind value caseSensitive =>
      (queue.expectValue kind value caseSensitive).map
        (fun found => answerToken (found.map some)) id
  | .expectKinds kinds =>
      (queue.expectKinds kinds).map (fun found => answerToken (found.map some)) id
  | .reset => (.done, queue.reset)
  | .size => (.count queue.size, queue)
  | .isEmpty => (.flag queue.isEmpty, queue)
  | .isExhausted => (.flag queue.isExhausted, queue)
  | .tokens => (.tokens queue.tokens, queue)
  | .remaining => (.tokens queue.remaining, queue)
  | .preview removal => (.queue (queue.removing removal), queue)
  | .remove removal => (.count (queue.removing removal).size, queue.removing removal)
  | .clear => (.done, .empty)
  | .isFresh => (.flag (queue == .ofTokens queue.tokens), queue)
  | .json => (.text queue.toJson, queue)
  | .prettyJson => (.text queue.toPrettyJson, queue)

/-- Perform operations one after another.  Each answer comes with the position after it. -/
def performAll (queue : TokenQueue κ) : List (QueueOp κ) → List (QueueAnswer κ × Nat)
  | [] => []
  | op :: ops =>
      let (answer, next) := queue.perform op
      (answer, next.position) :: next.performAll ops

end TokenQueue

end LexKit

import LexKit.Token.Consumption
import Mathlib.Data.List.DropRight

/-!
Consuming tokens over whole sequences of operations.

All operations on a queue share one position, and each has its own rule for moving it.  Here the
rules are told once, by what an operation answers and where it leaves the position.  What holds of a
queue after any sequence of operations follows from that: the tokens stay, the position counts the
operations that have taken a token since the last reset, and each operation sees the token at the
position and no other.
-/

namespace LexKit

variable {κ : Type}

namespace QueueOp

/-- Whether an operation puts another queue in the place of the one on which it is performed. -/
def replaces : QueueOp κ → Bool
  | remove _ | clear => true
  | _ => false

/-- Whether an operation takes a token, as far as its answer tells.  Only `takeIf` takes one on
condition; all others that take a token do so whatever they find. -/
def takes : QueueOp κ → QueueAnswer κ → Bool
  | take, _ | takeKind, _ | takeValue, _ | takeAs _, _ => true
  | expect _, _ | expectValue _ _ _, _ | expectKinds _, _ => true
  | takeIf _ _ _, .flag taken => taken
  | _, _ => false

/-- The answer of an operation that looks for a token where there is none. -/
def answerToNone? : QueueOp κ → Option (QueueAnswer κ)
  | peek | take | peekAs _ | takeAs _ => some (.token none)
  | peekKind | takeKind => some (.kind none)
  | peekValue | takeValue => some (.value none)
  | peekIs _ _ _ | takeIf _ _ _ => some (.flag false)
  | expect kind | expectValue kind _ _ => some (.mismatch (.exhausted (.kind kind)))
  | expectKinds kinds => some (.mismatch (.exhausted (.kinds kinds)))
  | _ => none

variable [DecidableEq κ]

/-- The answer of an operation that looks at a token. -/
def answerToToken? (token : Token κ) : QueueOp κ → Option (QueueAnswer κ)
  | peek | take => some (.token (some token))
  | peekKind | takeKind => some (.kind (some token.kind))
  | peekValue | takeValue => some (.value (some token.value))
  | peekAs kind | takeAs kind | expect kind =>
      some (if token.kind = kind then .token (some token)
        else .mismatch (.kind token (.kind kind)))
  | peekIs kind value caseSensitive | takeIf kind value caseSensitive =>
      some (.flag (token.hasKindAndValue kind value caseSensitive))
  | expectValue kind value caseSensitive =>
      some (if token.kind = kind then
          if token.valueMatches value caseSensitive then .token (some token)
          else .mismatch (.value token value)
        else .mismatch (.kind token (.kind kind)))
  | expectKinds kinds =>
      some (if kinds.contains token.kind then .token (some token)
        else .mismatch (.kind token (.kinds kinds)))
  | _ => none

/-- The answer of an operation to what it finds, if it looks for a token at all. -/
def answerTo? (op : QueueOp κ) : Option (Token κ) → Option (QueueAnswer κ)
  | none => op.answerToNone?
  | some token => op.answerToToken? token

theorem exists_answerTo? {op : QueueOp κ} {answer : QueueAnswer κ}
    (looks : op.answerToNone? = some answer) (found : Option (Token κ)) :
    ∃ other, op.answerTo? found = some other := by
  cases found with
  | none => exact ⟨answer, looks⟩
  | some token => cases op <;> first | exact ⟨_, rfl⟩ | cases looks

end QueueOp

namespace TokenQueue

variable {queue : TokenQueue κ} {token : Token κ}

/-! ### What is left -/

theorem peek?_of_isExhausted (exhausted : queue.isExhausted = true) : queue.peek? = none := by
  rw [isExhausted_iff_remaining] at exhausted
  rw [peek?_eq_head?_remaining, exhausted, List.head?_nil]

theorem remaining_eq_drop_min (queue : TokenQueue κ) :
    queue.remaining = queue.tokens.drop (min queue.position queue.tokens.length) := by
  rw [remaining]
  rcases Nat.le_total queue.position queue.tokens.length with inside | beyond
  · rw [Nat.min_eq_left inside]
  · rw [Nat.min_eq_right beyond, List.drop_of_length_le beyond, List.drop_length]

@[simp]
theorem answerToken_ok (found : Option (Token κ)) :
    answerToken (.ok found) = .token found := rfl

@[simp]
theorem answerToken_error (mismatch : Mismatch κ) :
    answerToken (.error mismatch) = .mismatch mismatch := rfl

/-! ### Counting calls -/

/-- How many of the calls have taken a token. -/
def countTaken (calls : List (QueueOp κ × QueueAnswer κ)) : Nat :=
  calls.countP fun call => call.1.takes call.2

theorem countTaken_concat (calls : List (QueueOp κ × QueueAnswer κ)) (op : QueueOp κ)
    (answer : QueueAnswer κ) :
    countTaken (calls ++ [(op, answer)]) =
      countTaken calls + if op.takes answer then 1 else 0 := by
  rw [countTaken, List.countP_append, List.countP_singleton]
  rfl

variable [DecidableEq κ]

/-- The calls behind the last reset, or all calls if there was none. -/
def sinceReset (calls : List (QueueOp κ × QueueAnswer κ)) : List (QueueOp κ × QueueAnswer κ) :=
  calls.rtakeWhile (·.1 ≠ .reset)

theorem sinceReset_concat (calls : List (QueueOp κ × QueueAnswer κ)) (op : QueueOp κ)
    (answer : QueueAnswer κ) :
    sinceReset (calls ++ [(op, answer)]) =
      if op = .reset then [] else sinceReset calls ++ [(op, answer)] := by
  rw [sinceReset, List.rtakeWhile_concat]
  by_cases resets : op = .reset <;> simp [resets, sinceReset]

/-! ### Expectations, by what is found -/

theorem peekAs_of_none (found : queue.peek? = none) (kind : κ) :
    queue.peekAs kind = .ok none := by
  simp [peekAs, found]

theorem peekAs_of_some (found : queue.peek? = some token) (kind : κ) :
    queue.peekAs kind =
      if token.kind = kind then .ok (some token) else .error (.kind token (.kind kind)) := by
  simp [peekAs, found]

theorem expect_of_none (found : queue.peek? = none) (kind : κ) :
    queue.expect kind = (.error (.exhausted (.kind kind)), queue.advance) := by
  simp [expect, takeAs, peekAs_of_none found]

theorem expect_of_some (found : queue.peek? = some token) (kind : κ) :
    queue.expect kind =
      (if token.kind = kind then .ok token else .error (.kind token (.kind kind)),
        queue.advance) := by
  rw [expect, takeAs, peekAs_of_some found]
  split_ifs <;> rfl

theorem expectValue_of_none (found : queue.peek? = none) (kind : κ) (value : Text)
    (caseSensitive : Bool) :
    queue.expectValue kind value caseSensitive =
      (.error (.exhausted (.kind kind)), queue.advance) := by
  simp [expectValue, expect_of_none found]

theorem expectValue_of_some (found : queue.peek? = some token) (kind : κ) (value : Text)
    (caseSensitive : Bool) :
    queue.expectValue kind value caseSensitive =
      (if token.kind = kind then
          if token.valueMatches value caseSensitive then .ok token else .error (.value token value)
        else .error (.kind token (.kind kind)), queue.advance) := by
  rw [expectValue, expect_of_some found]
  by_cases sameKind : token.kind = kind
  · simp only [sameKind, ↓reduceIte]
    split_ifs <;> rfl
  · simp only [sameKind, ↓reduceIte]

theorem expectKinds_of_none (found : queue.peek? = none) (kinds : List κ) :
    queue.expectKinds kinds = (.error (.exhausted (.kinds kinds)), queue.advance) := by
  simp [expectKinds, take, found]

theorem expectKinds_of_some (found : queue.peek? = some token) (kinds : List κ) :
    queue.expectKinds kinds =
      (if kinds.contains token.kind then .ok token else .error (.kind token (.kinds kinds)),
        queue.advance) := by
  simp only [expectKinds, take, found]
  split_ifs <;> rfl

theorem takeIf_eq (queue : TokenQueue κ) (kind : κ) (value : Text) (caseSensitive : Bool) :
    queue.takeIf kind value caseSensitive =
      (queue.peekIs kind value caseSensitive,
        if queue.peekIs kind value caseSensitive then queue.advance else queue) := by
  rw [takeIf]
  split_ifs with taken <;> simp [taken]

/-! ### One operation -/

variable [TokenKind κ] {op : QueueOp κ} {answer : QueueAnswer κ}

theorem perform_of_none (found : queue.peek? = none) (looks : op.answerToNone? = some answer) :
    queue.perform op = (answer, if op.takes answer then queue.advance else queue) := by
  cases op <;> simp only [QueueOp.answerToNone?, Option.some.injEq, reduceCtorEq] at looks
  all_goals
    subst looks
    simp [perform, QueueOp.takes, take, takeAs, takeIf_eq, peekIs, found, peekAs_of_none,
      expect_of_none, expectValue_of_none, expectKinds_of_none, Except.map]

theorem perform_of_some (found : queue.peek? = some token)
    (looks : op.answerToToken? token = some answer) :
    queue.perform op = (answer, if op.takes answer then queue.advance else queue) := by
  cases op <;> simp only [QueueOp.answerToToken?, Option.some.injEq, reduceCtorEq] at looks
  all_goals subst looks
  case peek | peekKind | peekValue | take | takeKind | takeValue =>
    simp [perform, take, found, QueueOp.takes]
  case peekIs | takeIf =>
    simp only [perform, takeIf_eq, peekIs, found, Option.any_some]
    rfl
  case peekAs kind | takeAs kind =>
    by_cases sameKind : token.kind = kind <;>
      simp [perform, takeAs, peekAs_of_some found, sameKind, QueueOp.takes]
  case expect kind =>
    by_cases sameKind : token.kind = kind <;>
      simp [perform, expect_of_some found, sameKind, QueueOp.takes, Except.map]
  case expectValue kind value caseSensitive =>
    by_cases sameKind : token.kind = kind <;>
      by_cases sameValue : token.valueMatches value caseSensitive = true <;>
        simp [perform, expectValue_of_some found, sameKind, sameValue, QueueOp.takes, Except.map]
  case expectKinds kinds =>
    by_cases oneOf : token.kind ∈ kinds <;>
      simp [perform, expectKinds_of_some found, oneOf, QueueOp.takes, Except.map]

/-- An operation that looks for a token answers to the token at the position, whatever the rest of
the queue is, and moves the position by one if it takes a token. -/
theorem perform_of_looks (looks : op.answerTo? queue.peek? = some answer) :
    queue.perform op = (answer, if op.takes answer then queue.advance else queue) := by
  cases found : queue.peek? with
  | none =>
      rw [found] at looks
      exact perform_of_none found looks
  | some token =>
      rw [found] at looks
      exact perform_of_some found looks

/-- An operation that does not look for a token leaves the position alone or resets it. -/
theorem perform_of_not_looks (queue : TokenQueue κ) (keeps : op.replaces = false)
    (blind : op.answerToNone? = none) :
    (queue.perform op).2 = (if op = .reset then queue.reset else queue) ∧
      op.takes (queue.perform op).1 = false := by
  cases op <;> simp_all [QueueOp.answerToNone?, QueueOp.replaces, QueueOp.takes, perform]

/-- An operation that keeps the queue resets its position, or moves it by one if it takes a token,
or leaves it alone. -/
theorem perform_queue (keeps : op.replaces = false) :
    (queue.perform op).2 =
      if op = .reset then queue.reset
      else if op.takes (queue.perform op).1 then queue.advance else queue := by
  cases looks : op.answerToNone? with
  | none =>
      obtain ⟨moved, blind⟩ := queue.perform_of_not_looks keeps looks
      simp only [moved, blind, Bool.false_eq_true, ↓reduceIte]
  | some answer =>
      obtain ⟨other, answered⟩ := QueueOp.exists_answerTo? looks queue.peek?
      have notReset : op ≠ .reset := by
        rintro rfl
        simp [QueueOp.answerToNone?] at looks
      rw [perform_of_looks answered, if_neg notReset]

theorem tokens_perform (keeps : op.replaces = false) :
    (queue.perform op).2.tokens = queue.tokens := by
  rw [perform_queue keeps]
  split_ifs <;> rfl

/-! ### Sequences of operations -/

/-- The queue on which the next operation is performed. -/
def after (queue : TokenQueue κ) (ops : List (QueueOp κ)) : TokenQueue κ :=
  ops.foldl (fun current op => (current.perform op).2) queue

/-- The operations, each with the answer that it gets. -/
def calls (queue : TokenQueue κ) (ops : List (QueueOp κ)) :
    List (QueueOp κ × QueueAnswer κ) :=
  ops.zip ((queue.performAll ops).map (·.1))

variable {ops later : List (QueueOp κ)}

theorem after_append : queue.after (ops ++ later) = (queue.after ops).after later :=
  List.foldl_append

theorem after_concat : queue.after (ops ++ [op]) = ((queue.after ops).perform op).2 := by
  rw [after_append]
  rfl

theorem length_performAll : (queue.performAll ops).length = ops.length := by
  induction ops generalizing queue with
  | nil => rfl
  | cons op ops inductionHypothesis => simp [performAll, inductionHypothesis]

theorem performAll_append :
    queue.performAll (ops ++ later) =
      queue.performAll ops ++ (queue.after ops).performAll later := by
  induction ops generalizing queue with
  | nil => rfl
  | cons op ops inductionHypothesis =>
      simp only [List.cons_append, performAll, inductionHypothesis]
      rfl

theorem calls_concat :
    queue.calls (ops ++ [op]) = queue.calls ops ++ [(op, ((queue.after ops).perform op).1)] := by
  rw [calls, performAll_append, List.map_append,
    List.zip_append (by rw [List.length_map, length_performAll])]
  rfl

theorem performAll_getElem? :
    (queue.performAll (ops ++ op :: later))[ops.length]? =
      some (((queue.after ops).perform op).1, (queue.after (ops ++ [op])).position) := by
  rw [performAll_append, after_concat, List.getElem?_append_right (Nat.le_of_eq length_performAll),
    length_performAll, Nat.sub_self]
  rfl

theorem tokens_after (queue : TokenQueue κ) (keeps : ∀ op ∈ ops, op.replaces = false) :
    (queue.after ops).tokens = queue.tokens := by
  induction ops using List.reverseRecOn with
  | nil => rfl
  | append_singleton ops op inductionHypothesis =>
      simp only [List.forall_mem_append, List.forall_mem_singleton] at keeps
      rw [after_concat, tokens_perform keeps.2]
      exact inductionHypothesis keeps.1

/-! ### The position -/

theorem position_after (queue : TokenQueue κ) (keeps : ∀ op ∈ ops, op.replaces = false) :
    (queue.after ops).position =
      (if .reset ∈ ops then 0 else queue.position) + countTaken (sinceReset (queue.calls ops)) := by
  -- From the end: a reset undoes what came before it and nothing behind it.
  induction ops using List.reverseRecOn with
  | nil => rfl
  | append_singleton ops op inductionHypothesis =>
      simp only [List.forall_mem_append, List.forall_mem_singleton] at keeps
      have before := inductionHypothesis keeps.1
      rw [after_concat, calls_concat, perform_queue keeps.2, sinceReset_concat]
      by_cases resets : op = .reset
      · simp [resets, reset, countTaken]
      · have kept : .reset ∈ ops ++ [op] ↔ .reset ∈ ops := by
          simp [Ne.symm resets]
        simp only [resets, ↓reduceIte, kept, countTaken_concat]
        cases op.takes ((queue.after ops).perform op).1 with
        | true => exact congrArg (· + 1) before
        | false => exact before

/-! ### Behind the last token -/

theorem isExhausted_after (exhausted : queue.isExhausted = true)
    (keeps : ∀ op ∈ ops, op.replaces = false ∧ op ≠ .reset) :
    (queue.after ops).isExhausted = true := by
  rw [isExhausted_iff_remaining] at exhausted ⊢
  induction ops using List.reverseRecOn with
  | nil => exact exhausted
  | append_singleton ops op inductionHypothesis =>
      simp only [List.forall_mem_append, List.forall_mem_singleton] at keeps
      have before := inductionHypothesis keeps.1
      rw [after_concat, perform_queue keeps.2.1, if_neg keeps.2.2]
      split_ifs
      · rw [remaining_advance, before, List.tail_nil]
      · exact before

/-- What operations on a queue, each of which keeps it, have left of it and make of it next. -/
structure Tracks (queue : TokenQueue κ) (ops : List (QueueOp κ)) : Prop where
  /-- The tokens are those of the beginning. -/
  tokens_eq : (queue.after ops).tokens = queue.tokens
  /-- The position counts the calls that have taken a token since the last reset. -/
  position_eq : (queue.after ops).position =
    (if .reset ∈ ops then 0 else queue.position) + countTaken (sinceReset (queue.calls ops))
  remaining_eq : (queue.after ops).remaining =
    queue.tokens.drop (min (queue.after ops).position queue.tokens.length)
  exhausted_iff : (queue.after ops).isExhausted = true ↔ (queue.after ops).remaining = []
  /-- The answer to the next operation, and the position behind it, stand next in the list. -/
  listed : ∀ op later, (queue.performAll (ops ++ op :: later))[ops.length]? =
    some (((queue.after ops).perform op).1, (queue.after (ops ++ [op])).position)
  /-- An operation that looks for a token answers to the one at the position, if there is one. -/
  answer_eq : ∀ op answer,
    op.answerTo? queue.tokens[(queue.after ops).position]? = some answer →
      ((queue.after ops).perform op).1 = answer
  /-- Behind the last token nothing is found until the next reset. -/
  answer_exhausted : (queue.after ops).isExhausted = true → ∀ later,
    (∀ op ∈ later, op.replaces = false ∧ op ≠ .reset) → ∀ op answer,
      op.answerToNone? = some answer → ((queue.after (ops ++ later)).perform op).1 = answer

end TokenQueue

/-- A queue keeps track of its tokens over all operations, however they are interleaved and whatever
comes of them. -/
theorem queue_tracks_operations [DecidableEq κ] [TokenKind κ] (queue : TokenQueue κ)
    (ops : List (QueueOp κ)) (keeps : ∀ op ∈ ops, op.replaces = false) : queue.Tracks ops := by
  have sameTokens := queue.tokens_after keeps
  constructor
  · exact sameTokens
  · exact queue.position_after keeps
  · rw [TokenQueue.remaining_eq_drop_min, sameTokens]
  · exact (queue.after ops).isExhausted_iff_remaining
  · intro op later
    exact TokenQueue.performAll_getElem?
  · intro op answer looks
    rw [← sameTokens] at looks
    rw [TokenQueue.perform_of_looks looks]
  · intro exhausted later laterKeeps op answer looks
    rw [TokenQueue.after_append]
    have stillExhausted := TokenQueue.isExhausted_after exhausted laterKeeps
    rw [TokenQueue.perform_of_none (TokenQueue.peek?_of_isExhausted stillExhausted) looks]

/-- A keyword and a name. -/
def declaration : TokenQueue Label :=
  .ofTokens [⟨⟨"keyword".toList⟩, "let".toList⟩, ⟨⟨"name".toList⟩, "x".toList⟩]

/-- A reset, and behind it three calls that take a token: one of the wrong kind, the right one, and
one that is not there. -/
def interleavedOperations : List (QueueOp Label) :=
  [.take, .reset, .takeAs ⟨"name".toList⟩, .takeIf ⟨"name".toList⟩ "y".toList true, .peek,
    .takeIf ⟨"name".toList⟩ "x".toList true, .isExhausted, .expect ⟨"name".toList⟩]

theorem interleavedOperations_tracked :
    (∀ op ∈ interleavedOperations, op.replaces = false) ∧
      (declaration.after interleavedOperations).position = 3 ∧
      (declaration.after interleavedOperations).remaining = [] ∧
      (declaration.after interleavedOperations).isExhausted = true ∧
      ((declaration.after (interleavedOperations ++ [.takeValue])).perform
        (.expectKinds [⟨"name".toList⟩])).1 =
          .mismatch (.exhausted (.kinds [⟨"name".toList⟩])) := by
  have keeps : ∀ op ∈ interleavedOperations, op.replaces = false := by decide
  have tracked := queue_tracks_operations declaration interleavedOperations keeps
  have position : (declaration.after interleavedOperations).position = 3 := by
    rw [tracked.position_eq]
    decide
  have remaining : (declaration.after interleavedOperations).remaining = [] := by
    rw [tracked.remaining_eq, position]
    rfl
  have exhausted := tracked.exhausted_iff.mpr remaining
  refine ⟨keeps, position, remaining, exhausted, ?_⟩
  exact tracked.answer_exhausted exhausted [.takeValue] (by decide) _ _ rfl

end LexKit

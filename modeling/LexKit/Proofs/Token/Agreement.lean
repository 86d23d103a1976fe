import LexKit.Proofs.Token.Consumption

/-!
The ways to consume a token agree.

A parser can look before it takes a token, take it on condition, or take it and be told what is
wrong with it.  Behind all of them stands one rule, `Demand.judge`: there must be a token, then its
kind must be an expected one, then its value must be the demanded one.  Each operation is this rule
for a demand of its own, whatever checks it is made of, so they succeed and fail together.
-/

namespace LexKit

variable {κ : Type}

/-- A kind is among the expected ones. -/
def Expected.Allows : Expected κ → κ → Prop
  | kind expected, found => found = expected
  | kinds expected, found => found ∈ expected

instance [DecidableEq κ] (expected : Expected κ) (found : κ) : Decidable (expected.Allows found) :=
  match expected with
  | .kind expected => inferInstanceAs (Decidable (found = expected))
  | .kinds expected => inferInstanceAs (Decidable (found ∈ expected))

/-- What a consumer asks of a token: a kind, and perhaps a value, letter case counting or not. -/
structure Demand (κ : Type) where
  expected : Expected κ
  value : Option (Text × Bool) := none

namespace Demand

/-- The value that is demanded of a token, if the token does not have it. -/
def missed? (demand : Demand κ) (token : Token κ) : Option Text :=
  demand.value.bind fun (value, caseSensitive) =>
    if token.valueMatches value caseSensitive then none else some value

/-- The answer to a demand, by what is found: the first thing that is wrong, or the token. -/
def judge [DecidableEq κ] (demand : Demand κ) : Option (Token κ) → Except (Mismatch κ) (Token κ)
  | none => .error (.exhausted demand.expected)
  | some token =>
      if demand.expected.Allows token.kind then
        match demand.missed? token with
        | none => .ok token
        | some value => .error (.value token value)
      else .error (.kind token demand.expected)

/-- A token of the given kind. -/
def ofKind (kind : κ) : Demand κ := { expected := .kind kind }

/-- A token of one of the given kinds. -/
def ofKinds (kinds : List κ) : Demand κ := { expected := .kinds kinds }

/-- A token of the given kind with the given value. -/
def ofValue (kind : κ) (value : Text) (caseSensitive : Bool) : Demand κ :=
  { expected := .kind kind, value := some (value, caseSensitive) }

theorem missed?_ofValue_eq_none {kind : κ} {value : Text} {caseSensitive : Bool}
    {token : Token κ} :
    (ofValue kind value caseSensitive).missed? token = none ↔
      token.valueMatches value caseSensitive = true := by
  simp [missed?, ofValue]

end Demand

namespace TokenQueue

variable {queue : TokenQueue κ} {demand : Demand κ} {token : Token κ}

theorem isExhausted_iff_peek? : queue.isExhausted = true ↔ queue.peek? = none := by
  rw [isExhausted_iff_remaining, peek?_eq_head?_remaining, List.head?_eq_none_iff]

/-- An answer to a demand that is right whatever the token at the position is: it gives this token
or tells the first thing that is wrong, the end before the kind and the kind before the value. -/
structure Answers (queue : TokenQueue κ) (demand : Demand κ)
    (answer : Except (Mismatch κ) (Token κ)) : Prop where
  ok_iff : ∀ token, answer = .ok token ↔
    queue.peek? = some token ∧ demand.expected.Allows token.kind ∧ demand.missed? token = none
  exhausted_iff : ∀ expected, answer = .error (.exhausted expected) ↔
    expected = demand.expected ∧ queue.isExhausted = true
  kind_iff : ∀ token expected, answer = .error (.kind token expected) ↔
    expected = demand.expected ∧ queue.peek? = some token ∧ ¬demand.expected.Allows token.kind
  value_iff : ∀ token value, answer = .error (.value token value) ↔
    queue.peek? = some token ∧ demand.expected.Allows token.kind ∧
      demand.missed? token = some value

variable [DecidableEq κ]

theorem answers_judge (queue : TokenQueue κ) (demand : Demand κ) :
    queue.Answers demand (demand.judge queue.peek?) := by
  cases found : queue.peek? with
  | none =>
      have exhausted := isExhausted_iff_peek?.mpr found
      constructor <;> grind [Demand.judge]
  | some token =>
      have left : queue.isExhausted ≠ true := by simp [isExhausted_iff_peek?, found]
      by_cases allowed : demand.expected.Allows token.kind
      · cases missed : demand.missed? token with
        | none => constructor <;> grind [Demand.judge]
        | some value => constructor <;> grind [Demand.judge]
      · constructor <;> grind [Demand.judge]

/-! ### Each operation judges by a demand of its own -/

theorem expect_eq_judge (queue : TokenQueue κ) (kind : κ) :
    queue.expect kind = ((Demand.ofKind kind).judge queue.peek?, queue.advance) := by
  cases found : queue.peek? with
  | none => exact expect_of_none found kind
  | some token => exact expect_of_some found kind

theorem expectKinds_eq_judge (queue : TokenQueue κ) (kinds : List κ) :
    queue.expectKinds kinds = ((Demand.ofKinds kinds).judge queue.peek?, queue.advance) := by
  cases found : queue.peek? with
  | none => exact expectKinds_of_none found kinds
  | some token =>
      rw [expectKinds_of_some found]
      by_cases oneOf : token.kind ∈ kinds <;>
        simp [Demand.judge, Demand.ofKinds, Demand.missed?, Expected.Allows, oneOf]

theorem expectValue_eq_judge (queue : TokenQueue κ) (kind : κ) (value : Text)
    (caseSensitive : Bool) :
    queue.expectValue kind value caseSensitive =
      ((Demand.ofValue kind value caseSensitive).judge queue.peek?, queue.advance) := by
  cases found : queue.peek? with
  | none => exact expectValue_of_none found kind value caseSensitive
  | some token =>
      rw [expectValue_of_some found]
      by_cases fits : token.valueMatches value caseSensitive = true <;>
        simp [Demand.judge, Demand.ofValue, Demand.missed?, Expected.Allows, fits]

theorem answers_expect (queue : TokenQueue κ) (kind : κ) :
    queue.Answers (.ofKind kind) (queue.expect kind).1 := by
  rw [expect_eq_judge]
  exact queue.answers_judge (.ofKind kind)

theorem answers_expectKinds (queue : TokenQueue κ) (kinds : List κ) :
    queue.Answers (.ofKinds kinds) (queue.expectKinds kinds).1 := by
  rw [expectKinds_eq_judge]
  exact queue.answers_judge (.ofKinds kinds)

theorem answers_expectValue (queue : TokenQueue κ) (kind : κ) (value : Text)
    (caseSensitive : Bool) :
    queue.Answers (.ofValue kind value caseSensitive)
      (queue.expectValue kind value caseSensitive).1 := by
  rw [expectValue_eq_judge]
  exact queue.answers_judge (.ofValue kind value caseSensitive)

/-! ### Success -/

theorem expect_eq_ok_iff {kind : κ} :
    (queue.expect kind).1 = .ok token ↔ queue.peek? = some token ∧ token.kind = kind := by
  rw [(queue.answers_expect kind).ok_iff]
  simp [Demand.ofKind, Expected.Allows, Demand.missed?]

theorem expectKinds_eq_ok_iff {kinds : List κ} :
    (queue.expectKinds kinds).1 = .ok token ↔
      queue.peek? = some token ∧ token.kind ∈ kinds := by
  rw [(queue.answers_expectKinds kinds).ok_iff]
  simp [Demand.ofKinds, Expected.Allows, Demand.missed?]

theorem expectValue_eq_ok_iff {kind : κ} {value : Text} {caseSensitive : Bool} :
    (queue.expectValue kind value caseSensitive).1 = .ok token ↔
      queue.peek? = some token ∧ token.kind = kind ∧
        token.valueMatches value caseSensitive = true := by
  rw [(queue.answers_expectValue kind value caseSensitive).ok_iff,
    Demand.missed?_ofValue_eq_none]
  rfl

theorem takeAs_eq_some_iff {kind : κ} :
    (queue.takeAs kind).1 = .ok (some token) ↔ queue.peek? = some token ∧ token.kind = kind := by
  cases found : queue.peek? with
  | none => simp [takeAs, peekAs_of_none found]
  | some other =>
      simp only [takeAs, peekAs_of_some found]
      grind

theorem takeAs_eq_none_iff {kind : κ} :
    (queue.takeAs kind).1 = .ok none ↔ queue.isExhausted = true := by
  rw [isExhausted_iff_peek?]
  cases found : queue.peek? with
  | none => simp [takeAs, peekAs_of_none found]
  | some token =>
      simp only [takeAs, peekAs_of_some found]
      grind

theorem peekIs_iff {kind : κ} {value : Text} {caseSensitive : Bool} :
    queue.peekIs kind value caseSensitive = true ↔
      ∃ token, queue.peek? = some token ∧ token.kind = kind ∧
        token.valueMatches value caseSensitive = true := by
  cases found : queue.peek? with
  | none => simp [peekIs, found]
  | some token => simp [peekIs, found, Token.hasKindAndValue]

/-! ### All ways together -/

/-- What the ways to consume the token at the position have in common, each of them taken from the
same queue. -/
structure ConsumersAgree (queue : TokenQueue κ) (kind : κ) (value : Text) (caseSensitive : Bool)
    (kinds : List κ) : Prop where
  takeIf_iff : (queue.takeIf kind value caseSensitive).1 = true ↔
    queue.peekIs kind value caseSensitive = true
  expectValue_iff : (∃ token, (queue.expectValue kind value caseSensitive).1 = .ok token) ↔
    queue.peekIs kind value caseSensitive = true
  expect_iff : (∃ token, (queue.expect kind).1 = .ok token ∧
      token.valueMatches value caseSensitive = true) ↔
    queue.peekIs kind value caseSensitive = true
  /-- What they take then is the token at the position, and they leave the position behind it. -/
  taken : queue.peekIs kind value caseSensitive = true →
    (queue.takeIf kind value caseSensitive).2 = queue.advance ∧
    (queue.expect kind).2 = queue.advance ∧
    (queue.expectValue kind value caseSensitive).2 = queue.advance ∧
    ∃ token, queue.peek? = some token ∧ (queue.expect kind).1 = .ok token ∧
      (queue.expectValue kind value caseSensitive).1 = .ok token
  expectKinds_singleton_iff : ∀ token,
    (queue.expectKinds [kind]).1 = .ok token ↔ (queue.expect kind).1 = .ok token
  takeAs_some_iff : ∀ token,
    (queue.takeAs kind).1 = .ok (some token) ↔ (queue.expect kind).1 = .ok token
  /-- Behind the last token only `takeAs` is content. -/
  takeAs_none_iff : (queue.takeAs kind).1 = .ok none ↔ queue.isExhausted = true
  expectKinds_iff : ∀ token,
    (queue.expectKinds kinds).1 = .ok token ↔
      ∃ oneOf ∈ kinds, (queue.expect oneOf).1 = .ok token
  expect_answers : queue.Answers (.ofKind kind) (queue.expect kind).1
  expectKinds_answers : queue.Answers (.ofKinds kinds) (queue.expectKinds kinds).1
  expectValue_answers : queue.Answers (.ofValue kind value caseSensitive)
    (queue.expectValue kind value caseSensitive).1

end TokenQueue

/-- Whatever stands at the position of a queue, or if it lies behind the last token, all ways to
consume a token agree on it. -/
theorem token_consumers_agree [DecidableEq κ] (queue : TokenQueue κ) (kind : κ) (value : Text)
    (caseSensitive : Bool) (kinds : List κ) :
    queue.ConsumersAgree kind value caseSensitive kinds := by
  constructor
  · rw [TokenQueue.takeIf_eq]
  · simp only [TokenQueue.expectValue_eq_ok_iff, TokenQueue.peekIs_iff]
  · simp only [TokenQueue.expect_eq_ok_iff, TokenQueue.peekIs_iff, and_assoc]
  · intro present
    obtain ⟨token, found, sameKind, sameValue⟩ := TokenQueue.peekIs_iff.mp present
    refine ⟨?_, ?_, ?_, token, found, ?_, ?_⟩
    · rw [TokenQueue.takeIf_eq, if_pos present]
    · rw [TokenQueue.expect_eq_judge]
    · rw [TokenQueue.expectValue_eq_judge]
    · exact TokenQueue.expect_eq_ok_iff.mpr ⟨found, sameKind⟩
    · exact TokenQueue.expectValue_eq_ok_iff.mpr ⟨found, sameKind, sameValue⟩
  · intro token
    rw [TokenQueue.expectKinds_eq_ok_iff, TokenQueue.expect_eq_ok_iff, List.mem_singleton]
  · intro token
    rw [TokenQueue.takeAs_eq_some_iff, TokenQueue.expect_eq_ok_iff]
  · exact TokenQueue.takeAs_eq_none_iff
  · intro token
    simp only [TokenQueue.expectKinds_eq_ok_iff, TokenQueue.expect_eq_ok_iff]
    constructor
    · rintro ⟨found, oneOf⟩
      exact ⟨token.kind, oneOf, found, rfl⟩
    · rintro ⟨_, oneOf, found, rfl⟩
      exact ⟨found, oneOf⟩
  · exact queue.answers_expect kind
  · exact queue.answers_expectKinds kinds
  · exact queue.answers_expectValue kind value caseSensitive

end LexKit

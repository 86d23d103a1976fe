import LexKit.Proofs.Blueprint.Drafting
import LexKit.Proofs.Scan.Bound

/-!
The scanner does what its blueprint says.

One round of the driver of a blueprint corresponds to one step of a run.  The only round without a
counterpart is the last one of a run that has consumed the end of the text: there the driver finds
its position behind the end, while the run has ended at once.
-/

namespace LexKit.Blueprint

variable {κ : Type}

theorem Edge.reacts_eq_handles (edge : Edge κ) (input : Option Char) :
    edge.reacts input = edge.on.handles input := by
  cases input with
  | none =>
      cases charClass : edge.on <;>
        simp [reacts, charClass, CharClass.handles, CharClass.holdsEnd]
  | some c =>
      cases charClass : edge.on <;>
        simp [reacts, charClass, CharClass.handles, CharClass.holds, Bool.or_assoc]

theorem Draft.select?_automaton (draft : Draft κ) (state : StateId) (input : Option Char) :
    draft.automaton.select? state input =
      ((draft.edges state).find? (·.reacts input)).map Edge.resolve := by
  have sameRule : (fun transition : Transition κ => transition.on.handles input) ∘ Edge.resolve =
      fun edge : Edge κ => edge.reacts input :=
    funext fun edge => (edge.reacts_eq_handles input).symm
  rw [Automaton.select?, draft.state_automaton, List.find?_map, sameRule]

/-- The variables of the driver describe a configuration. -/
structure Describes (text : Text) (scanner : Scanner κ) (config : Config κ) : Prop where
  state : config.state = scanner.state
  position_le : scanner.position ≤ text.length
  cursor : config.cursor = .after text scanner.position
  endOfInput : scanner.endOfInput = decide (text.length ≤ scanner.position)
  buffer : config.pending.toList = scanner.buffer
  tokens : config.tokens.toList = scanner.tokens

/-- What a round of the driver comes to, beside what a step of a run comes to. -/
inductive Corresponds (text : Text) : Progress κ → Scanner κ ⊕ Verdict κ → Prop where
  | running {config : Config κ} {scanner : Scanner κ} (described : Describes text scanner config) :
      Corresponds text (.running config) (.inl scanner)
  | rested (tokens : List (Token κ)) : Corresponds text (.finished tokens) (.inr (.tokens tokens))
  | passedEnd {scanner : Scanner κ} {tokens : List (Token κ)}
      (behind : text.length < scanner.position) (same : tokens = scanner.tokens) :
      Corresponds text (.finished tokens) (.inl scanner)
  | failed (fault : Fault) :
      Corresponds text (.failed fault) (.inr (.error fault.cause fault.state fault.offset))

namespace Describes

variable {text : Text} {scanner : Scanner κ} {config : Config κ}

theorem initial (text : Text) : Describes text (Scanner.initial text : Scanner κ) (.initial text) where
  state := rfl
  position_le := Nat.zero_le _
  cursor := rfl
  endOfInput := by cases text <;> simp [Scanner.initial]
  buffer := rfl
  tokens := rfl

theorem atEnd_eq (described : Describes text scanner config) :
    config.cursor.atEnd = scanner.endOfInput := by
  rw [described.cursor, described.endOfInput, Bool.eq_iff_iff, Cursor.atEnd_after_iff]
  simp

theorem isDone_eq (described : Describes text scanner config) :
    config.isDone = decide (scanner.state = StateId.start ∧ scanner.endOfInput) := by
  rw [Config.isDone, described.atEnd_eq, described.state]
  by_cases atStart : scanner.state = StateId.start <;> simp [atStart]

theorem peek?_eq (described : Describes text scanner config) :
    config.cursor.peek? = if scanner.endOfInput then none else text[scanner.position]? := by
  rw [described.cursor, Cursor.peek?_after, described.endOfInput]
  by_cases ended : text.length ≤ scanner.position
  · simp [ended]
  · simp [ended]

/-- Consuming the end of the text is what brings the position behind it. -/
theorem consumesEnd_iff (described : Describes text scanner config) (transition : Transition κ) :
    transition.consumesEnd config.cursor = true ↔
      text.length < if transition.rereads then scanner.position else scanner.position + 1 := by
  have bounded := described.position_le
  rw [Transition.consumesEnd, described.atEnd_eq, described.endOfInput]
  cases transition.rereads with
  | true => simpa using bounded
  | false =>
      simp only [Bool.not_false, Bool.and_true, decide_eq_true_eq, Bool.false_eq_true, ↓reduceIte]
      exact Nat.lt_succ_iff.symm

theorem move_eq (described : Describes text scanner config) {transition : Transition κ}
    (running : transition.consumesEnd config.cursor = false) :
    transition.move config.cursor = .after text
      (if transition.rereads then scanner.position else scanner.position + 1) := by
  cases reread : transition.rereads with
  | true => simp [Transition.move, reread, described.cursor]
  | false =>
      have inside : scanner.position < text.length := by
        have notEnded := described.atEnd_eq
        simp only [Transition.consumesEnd, reread, Bool.not_false, Bool.and_true] at running
        rw [running, described.endOfInput] at notEnded
        simpa using notEnded
      simp [Transition.move, reread, described.cursor, Cursor.step_after inside]

theorem collect_eq (described : Describes text scanner config) (transition : Transition κ)
    (input : Option Char) :
    (transition.collect input config.pending).toList =
      if transition.includes then scanner.buffer ++ input.toList else scanner.buffer := by
  cases included : transition.includes with
  | true => cases input <;> simp [Transition.collect, included, described.buffer]
  | false => simp [Transition.collect, included, described.buffer]

/-- Going on behind an edge, as long as state, buffer and tokens are right. -/
theorem proceed (described : Describes text scanner config) {transition : Transition κ}
    {next : Config κ} {state : StateId} {buffer : Text} {tokens : List (Token κ)}
    (sameState : next.state = state) (moved : next.cursor = transition.move config.cursor)
    (sameBuffer : next.pending.toList = buffer) (sameTokens : next.tokens.toList = tokens) :
    let position := if transition.rereads then scanner.position else scanner.position + 1
    Corresponds text (next.proceed (transition.consumesEnd config.cursor))
      (.inl ⟨state, position, decide (text.length ≤ position), buffer, tokens⟩) := by
  intro position
  cases consumed : transition.consumesEnd config.cursor with
  | true => exact .passedEnd ((described.consumesEnd_iff transition).mp consumed) sameTokens
  | false =>
      have notBehind : ¬text.length < position := by
        intro behind
        simp [(described.consumesEnd_iff transition).mpr behind] at consumed
      refine .running ⟨sameState, Nat.le_of_not_lt notBehind, ?_, rfl, sameBuffer, sameTokens⟩
      rw [moved]
      exact described.move_eq consumed

theorem failed (described : Describes text scanner config) (cause : FaultCause) :
    Corresponds text (.failed (config.fault cause) : Progress κ)
      (.inr (.error cause scanner.state scanner.position)) := by
  have offset : config.cursor.index = scanner.position := by
    rw [described.cursor]
    rfl
  rw [← described.state, ← offset]
  exact .failed (config.fault cause)

theorem follow (described : Describes text scanner config) (edge : Edge κ) :
    Corresponds text (config.follow edge.resolve)
      (Draft.follow text scanner config.cursor.peek? edge) := by
  have collected : (edge.resolve.collect config.cursor.peek? config.pending).toList =
      if edge.includes then scanner.buffer ++ config.cursor.peek?.toList else scanner.buffer :=
    described.collect_eq edge.resolve config.cursor.peek?
  unfold Draft.follow
  by_cases message : edge.message = []
  · simp only [message, ne_eq, not_true_eq_false, ↓reduceIte]
    cases kindFound : edge.tokenKind with
    | some kind =>
        have decided : edge.resolve.disposition = some (.emit kind) := by
          simp [Edge.resolve, message, kindFound]
        simp only [Config.follow, decided]
        refine described.proceed rfl rfl rfl ?_
        simpa [Config.finish, Config.consume, described.tokens] using collected
    | none =>
        cases nextFound : edge.nextState with
        | some next =>
            have decided : edge.resolve.disposition = some (.moveTo next) := by
              simp [Edge.resolve, message, kindFound, nextFound]
            simp only [Config.follow, decided]
            exact described.proceed rfl rfl collected described.tokens
        | none =>
            have undecided : edge.resolve.disposition = none := by
              simp [Edge.resolve, message, kindFound, nextFound]
            simp only [Config.follow, undecided]
            exact described.failed .missingDestination
  · have decided : edge.resolve.disposition = some (.fail edge.message) := by
      simp [Edge.resolve, message]
    simp only [message, ne_eq, not_false_eq_true, ↓reduceIte, Config.follow, decided]
    exact described.failed (.explicit edge.message)

theorem step (described : Describes text scanner config) (draft : Draft κ) :
    Corresponds text (draft.automaton.step config) (draft.step text scanner) := by
  have notBehind : ¬text.length < scanner.position := Nat.not_lt.mpr described.position_le
  unfold Draft.step Automaton.step
  simp only [notBehind, ↓reduceIte, described.isDone_eq, decide_eq_true_eq]
  by_cases done : scanner.state = StateId.start ∧ scanner.endOfInput = true
  · simp only [done, ↓reduceIte]
    rw [described.tokens]
    exact .rested scanner.tokens
  · simp only [done, ↓reduceIte, ← described.peek?_eq, described.state,
      draft.select?_automaton]
    cases (draft.edges scanner.state).find? (·.reacts config.cursor.peek?) with
    | some edge => exact described.follow edge
    | none =>
        simp only [Option.map_none]
        exact described.failed (.unmatched config.cursor.peek?)

end Describes

namespace Draft

theorem runFor_succ {draft : Draft κ} {text : Text} {rounds : Nat} {scanner : Scanner κ}
    {verdict : Verdict κ} (reached : draft.runFor text rounds scanner = some verdict) :
    draft.runFor text (rounds + 1) scanner = some verdict := by
  induction rounds generalizing scanner with
  | zero => simp [runFor] at reached
  | succ rounds inductionHypothesis =>
      unfold runFor at reached ⊢
      cases stepped : draft.step text scanner with
      | inl next =>
          simp only [stepped] at reached ⊢
          exact inductionHypothesis reached
      | inr other =>
          simp only [stepped] at reached ⊢
          exact reached

theorem runFor_of_behind (draft : Draft κ) {text : Text} {scanner : Scanner κ}
    (behind : text.length < scanner.position) (rounds : Nat) :
    draft.runFor text (rounds + 1) scanner = some (.tokens scanner.tokens) := by
  simp [runFor, step, behind]

end Draft

/-- What an outcome says, without the line and the column of a fault. -/
def verdict? : Outcome κ → Option (Verdict κ)
  | .accepted tokens => some (.tokens tokens)
  | .rejected fault => some (.error fault.cause fault.state fault.offset)
  | .divergent => none

theorem verdict?_eq_none_iff (outcome : Outcome κ) :
    verdict? outcome = none ↔ outcome = .divergent := by
  cases outcome <;> simp [verdict?]

namespace Describes

variable {text : Text} {scanner : Scanner κ} {config : Config κ}

/-- A run that has ended gives the verdict of the driver, which needs at most one round more. -/
theorem runFor_eq_some (described : Describes text scanner config) (draft : Draft κ)
    {fuel : Nat} {verdict : Verdict κ}
    (ended : verdict? (draft.automaton.runFor fuel config) = some verdict) :
    draft.runFor text (fuel + 1) scanner = some verdict := by
  induction fuel generalizing scanner config with
  | zero => simp [Automaton.runFor, verdict?] at ended
  | succ fuel inductionHypothesis =>
      have corresponds := described.step draft
      unfold Automaton.runFor at ended
      unfold Draft.runFor
      generalize draft.automaton.step config = progress at corresponds ended
      generalize draft.step text scanner = round at corresponds
      cases corresponds with
      | running described => exact inductionHypothesis described ended
      | rested tokens => exact ended
      | passedEnd behind same =>
          rw [← ended, same]
          exact draft.runFor_of_behind behind fuel
      | failed fault => exact ended

theorem runFor_eq_none (described : Describes text scanner config) (draft : Draft κ)
    {fuel : Nat} (running : draft.automaton.runFor fuel config = .divergent) :
    draft.runFor text fuel scanner = none := by
  induction fuel generalizing scanner config with
  | zero => rfl
  | succ fuel inductionHypothesis =>
      have corresponds := described.step draft
      unfold Automaton.runFor at running
      unfold Draft.runFor
      generalize draft.automaton.step config = progress at corresponds running
      generalize draft.step text scanner = round at corresponds
      cases corresponds with
      | running described => exact inductionHypothesis described running
      | rested tokens => simp at running
      | passedEnd behind same => simp at running
      | failed fault => simp at running

end Describes

theorem yields_of_tokenize {draft : Draft κ} {text : Text} {verdict : Verdict κ}
    (ended : verdict? (draft.automaton.tokenize text) = some verdict) :
    draft.Yields text verdict :=
  ⟨_, (Describes.initial text).runFor_eq_some draft ended⟩

theorem tokenize_of_yields {draft : Draft κ} (wellFormed : draft.automaton.WellFormed)
    {text : Text} {verdict : Verdict κ} (yields : draft.Yields text verdict) :
    verdict? (draft.automaton.tokenize text) = some verdict := by
  obtain ⟨rounds, reached⟩ := yields
  have ended : draft.automaton.runFor rounds (.initial text) ≠ .divergent := by
    intro running
    have unreached := (Describes.initial text).runFor_eq_none draft running
    simp [unreached] at reached
  rw [Automaton.tokenize_eq_runFor wellFormed ended]
  cases said : verdict? (draft.automaton.runFor rounds (.initial text)) with
  | none => exact absurd ((verdict?_eq_none_iff _).mp said) ended
  | some other =>
      -- The driver may need one round more than the run, so both verdicts are taken after that.
      have otherReached := (Describes.initial text).runFor_eq_some draft said
      rw [Draft.runFor_succ reached] at otherReached
      exact otherReached.symm

/-- Whatever calls draw an automaton, on every text it comes to the verdict of its blueprint, and it
runs for ever on exactly those texts on which the driver of the blueprint never ends. -/
theorem tokenize_refines_blueprint (calls : List (Call κ)) (text : Text) :
    (∀ verdict, verdict? ((Call.automaton calls).tokenize text) = some verdict ↔
      (Draft.ofCalls calls).Yields text verdict) ∧
    ((Call.automaton calls).tokenize text = .divergent ↔
      (Draft.ofCalls calls).NeverEnds text) := by
  have wellFormed := Call.automaton_wellFormed calls
  rw [automaton_ofCalls calls] at wellFormed ⊢
  have sameVerdict : ∀ verdict,
      verdict? ((Draft.ofCalls calls).automaton.tokenize text) = some verdict ↔
        (Draft.ofCalls calls).Yields text verdict := by
    intro verdict
    constructor
    · exact yields_of_tokenize
    · exact tokenize_of_yields wellFormed
  refine ⟨sameVerdict, ?_⟩
  rw [← verdict?_eq_none_iff]
  constructor
  · intro unsaid rounds
    cases reached : (Draft.ofCalls calls).runFor text rounds (.initial text) with
    | none => rfl
    | some verdict =>
        rw [(sameVerdict verdict).mpr ⟨rounds, reached⟩] at unsaid
        simp at unsaid
  · intro neverEnds
    cases said : verdict? ((Draft.ofCalls calls).automaton.tokenize text) with
    | none => rfl
    | some verdict =>
        obtain ⟨rounds, reached⟩ := (sameVerdict verdict).mp said
        rw [neverEnds rounds] at reached
        simp at reached

end LexKit.Blueprint

import LexKit.Proofs.Scan.Divergence

/-!
Adding to an automaton takes nothing away.

The first transition that handles an input is taken, so transitions that are added behind the old
ones matter only where the old automaton has nothing to say.  A larger automaton follows each run of
the smaller one, round by round, until the smaller one finds an input unmatched.
-/

namespace LexKit

variable {κ : Type}

namespace Automaton

/-- The larger automaton has all states of the smaller one, and in each of them tries the same
transitions first. -/
structure Extends (larger smaller : Automaton κ) : Prop where
  size_le : smaller.size ≤ larger.size
  state_le : ∀ id < smaller.size, smaller.state id <+: larger.state id

namespace Extends

variable {smaller larger : Automaton κ} {text : Text} {config later : Config κ} {round : Nat}
  {outcome : Outcome κ}

theorem select?_eq (extension : larger.Extends smaller) {id : StateId} {input : Option Char}
    {transition : Transition κ} (inside : id < smaller.size)
    (selected : smaller.select? id input = some transition) :
    larger.select? id input = some transition :=
  (extension.state_le id inside).find?_eq_some selected

/-- The two step alike wherever the smaller one can deal with the input. -/
theorem step_eq (extension : larger.Extends smaller) (inside : config.state < smaller.size)
    (matched : smaller.step config ≠ .failed (config.fault (.unmatched config.cursor.peek?))) :
    larger.step config = smaller.step config := by
  cases done : config.isDone with
  | true => rw [larger.step_of_isDone done, smaller.step_of_isDone done]
  | false =>
      cases selected : smaller.select? config.state config.cursor.peek? with
      | none => exact absurd ((Refuses.unmatched selected).step done) matched
      | some transition =>
          simp only [step, done, selected, extension.select?_eq inside selected]

theorem atRound?_eq (extension : larger.Extends smaller) (wellFormed : smaller.WellFormed)
    (inside : config.Inside smaller text)
    (reached : smaller.atRound? round config = some later) :
    larger.atRound? round config = some later := by
  induction round generalizing config with
  | zero => exact reached
  | succ round inductionHypothesis =>
      cases step : smaller.step config with
      | running next =>
          have followed : larger.step config = .running next := by
            rw [extension.step_eq inside.state_lt (by simp [step]), step]
          obtain ⟨transition, taken⟩ := exists_takes_of_step step
          simp only [atRound?, step] at reached
          simp only [atRound?, followed]
          exact inductionHypothesis (inside.next wellFormed taken) reached
      | finished tokens => simp [atRound?, step] at reached
      | failed fault => simp [atRound?, step] at reached

theorem runsForever (extension : larger.Extends smaller) (wellFormed : smaller.WellFormed)
    (forever : smaller.RunsForever text) : larger.RunsForever text := by
  intro round
  obtain ⟨config, reached⟩ := forever round
  exact ⟨config,
    extension.atRound?_eq wellFormed (Config.inside_initial wellFormed text) reached⟩

theorem endsIn (extension : larger.Extends smaller) (wellFormed : smaller.WellFormed)
    (ends : smaller.EndsIn text round outcome)
    (matched : ∀ fault input, outcome = .rejected fault → fault.cause ≠ .unmatched input) :
    larger.EndsIn text round outcome := by
  obtain ⟨config, reached, ended⟩ := ends
  have inside := Config.inside_initial wellFormed text
  have same : larger.step config = smaller.step config := by
    apply extension.step_eq (inside_of_atRound? wellFormed inside reached).state_lt
    intro failed
    rw [failed] at ended
    exact matched _ _ (Option.some.inj ended).symm rfl
  refine ⟨config, extension.atRound?_eq wellFormed inside reached, ?_⟩
  rw [same]
  exact ended

/-- The larger automaton comes to an outcome of the smaller one in the same round, so its own bound,
which is not smaller, is met as well. -/
theorem tokenize_eq (extension : larger.Extends smaller) (wellFormed : smaller.WellFormed)
    (ended : smaller.tokenize text ≠ .divergent)
    (matched : ∀ fault input, smaller.tokenize text = .rejected fault →
      fault.cause ≠ .unmatched input) :
    larger.tokenize text = smaller.tokenize text := by
  obtain ⟨round, bounded, ends⟩ := exists_endsIn_of_tokenize ended
  have largerEnds := extension.endsIn wellFormed ends matched
  have enough : round + 1 ≤ larger.stepBound text :=
    Nat.le_trans bounded (Nat.mul_le_mul_right _ extension.size_le)
  rw [tokenize, runFor_eq_of_le largerEnds.endsAfter.2 enough, largerEnds.runFor_eq]

end Extends

end Automaton

/-- What a well-formed automaton makes of a text, any extension of it makes of the text: the same
tokens, the same fault unless the fault is an unmatched input, or no end.  Up to an unmatched input
the two pass the same configurations, which hold the tokens finished so far. -/
theorem tokenize_of_extends {smaller larger : Automaton κ} (wellFormed : smaller.WellFormed)
    (extension : larger.Extends smaller) (text : Text) :
    (∀ tokens, smaller.tokenize text = .accepted tokens →
      larger.tokenize text = .accepted tokens) ∧
    (∀ fault, smaller.tokenize text = .rejected fault →
      (∀ input, fault.cause ≠ .unmatched input) → larger.tokenize text = .rejected fault) ∧
    (smaller.RunsForever text → larger.RunsForever text) ∧
    (smaller.tokenize text = .divergent → larger.tokenize text = .divergent) ∧
    ∀ fault input, smaller.tokenize text = .rejected fault → fault.cause = .unmatched input →
      ∃ round last, smaller.atRound? round (.initial text) = some last ∧
        smaller.step last = .failed fault ∧
        last.state = fault.state ∧ last.cursor.index = fault.offset ∧
        ∀ earlier ≤ round, ∃ config, smaller.atRound? earlier (.initial text) = some config ∧
          larger.atRound? earlier (.initial text) = some config := by
  have inside := Config.inside_initial wellFormed text
  refine ⟨?_, ?_, extension.runsForever wellFormed, ?_, ?_⟩
  · intro tokens accepted
    rw [extension.tokenize_eq wellFormed (by simp [accepted]) (by simp [accepted]), accepted]
  · intro fault rejected matched
    rw [extension.tokenize_eq wellFormed (by simp [rejected]) ?_, rejected]
    intro other input same
    rw [rejected] at same
    exact Outcome.rejected.inj same ▸ matched input
  · intro divergent
    exact (extension.runsForever wellFormed
      (Automaton.runsForever_of_tokenize wellFormed divergent)).tokenize_eq
  · intro fault input rejected _
    have ended : smaller.tokenize text ≠ .divergent := by simp [rejected]
    obtain ⟨round, _, last, reached, stepped⟩ := Automaton.exists_endsIn_of_tokenize ended
    rw [rejected] at stepped
    have failed := Progress.eq_failed_of_outcome? stepped
    have shown := Automaton.fault_eq_of_step failed
    refine ⟨round, last, reached, failed, by rw [shown]; rfl, by rw [shown]; rfl, ?_⟩
    intro earlier before
    obtain ⟨config, passed⟩ := Automaton.exists_atRound?_of_le reached before
    exact ⟨config, passed, extension.atRound?_eq wellFormed inside passed⟩

/-- Numbers only. -/
def bareNumbers : List (Call Nat) :=
  [.on 0 .digit, .moveToNew 0, .on 1 .digit, .stay 1, .on 1 .any, .rewind 2, .emit 2 7]

/-- Words beside numbers.  Numbers get a second way to treat a digit, behind all others, which is
never taken. -/
def addedWords : List (Call Nat) :=
  [.on 0 .letterOrDigit, .moveToNew 3, .on 2 .any, .rewind 4, .emit 4 8, .on 1 .digit,
    .fail 5 "too long".toList]

theorem addedWords_extend :
    (Call.automaton (bareNumbers ++ addedWords)).Extends (Call.automaton bareNumbers) ∧
      (Call.automaton bareNumbers).tokenize "12".toList = .accepted [⟨7, "12".toList⟩] ∧
      (Call.automaton (bareNumbers ++ addedWords)).tokenize "12".toList =
        .accepted [⟨7, "12".toList⟩] ∧
      (Call.automaton bareNumbers).tokenize "1a".toList =
        .rejected ⟨.unmatched (some 'a'), ⟨1, 1⟩, 1, 0⟩ ∧
      ∃ round last,
        (Call.automaton bareNumbers).atRound? round (.initial "1a".toList) = some last ∧
        (Call.automaton bareNumbers).step last =
          .failed ⟨.unmatched (some 'a'), ⟨1, 1⟩, 1, 0⟩ ∧
        last.state = 0 ∧ last.cursor.index = 1 ∧
        ∀ earlier ≤ round, ∃ config,
          (Call.automaton bareNumbers).atRound? earlier (.initial "1a".toList) = some config ∧
          (Call.automaton (bareNumbers ++ addedWords)).atRound? earlier
            (.initial "1a".toList) = some config := by
  have wellFormed := Call.automaton_wellFormed bareNumbers
  have extension :
      (Call.automaton (bareNumbers ++ addedWords)).Extends (Call.automaton bareNumbers) :=
    ⟨by decide, by decide⟩
  have accepted : (Call.automaton bareNumbers).tokenize "12".toList =
      .accepted [⟨7, "12".toList⟩] := by decide
  have rejected : (Call.automaton bareNumbers).tokenize "1a".toList =
      .rejected ⟨.unmatched (some 'a'), ⟨1, 1⟩, 1, 0⟩ := by decide
  obtain ⟨sameTokens, _⟩ := tokenize_of_extends wellFormed extension "12".toList
  obtain ⟨_, _, _, _, followed⟩ := tokenize_of_extends wellFormed extension "1a".toList
  exact ⟨extension, accepted, sameTokens _ accepted, rejected, followed _ _ rejected rfl⟩

end LexKit

import LexKit.Proofs.Scan.Bound
import Mathlib.Data.Fintype.Pigeonhole

/-!
Runs without end.

The rounds of a run are counted here without any bound: at the head of each round stands a
configuration, until a step ends the run.  A run goes on for ever exactly when two of its rounds
begin in the same state at the same place of the text.  The bounded run of `Automaton.tokenize` is
cut off on no other text.
-/

namespace LexKit

variable {κ : Type}

def Progress.outcome? : Progress κ → Option (Outcome κ)
  | running _ => none
  | finished tokens => some (.accepted tokens)
  | failed fault => some (.rejected fault)

theorem Progress.eq_failed_of_outcome? {progress : Progress κ} {fault : Fault}
    (ended : progress.outcome? = some (.rejected fault)) : progress = .failed fault := by
  cases progress with
  | running config => simp [outcome?] at ended
  | finished tokens => simp [outcome?] at ended
  | failed other =>
      simp only [outcome?, Option.some.injEq, Outcome.rejected.injEq] at ended
      rw [ended]

namespace Automaton

/-- The configuration at the head of the given round, if the run gets there. -/
def atRound? (automaton : Automaton κ) : Nat → Config κ → Option (Config κ)
  | 0, config => some config
  | round + 1, config =>
      match automaton.step config with
      | .running next => automaton.atRound? round next
      | .finished _ | .failed _ => none

/-- The run over a text comes to an outcome in the given round; rounds are counted from zero. -/
def EndsIn (automaton : Automaton κ) (text : Text) (round : Nat) (outcome : Outcome κ) : Prop :=
  ∃ config, automaton.atRound? round (.initial text) = some config ∧
    (automaton.step config).outcome? = some outcome

def RunsForever (automaton : Automaton κ) (text : Text) : Prop :=
  ∀ round, ∃ config, automaton.atRound? round (.initial text) = some config

/-- Two rounds of the run over a text begin in the same state at the same place. -/
def RepeatsPlace (automaton : Automaton κ) (text : Text) : Prop :=
  ∃ earlier later first second, earlier < later ∧
    automaton.atRound? earlier (.initial text) = some first ∧
    automaton.atRound? later (.initial text) = some second ∧
    first.state = second.state ∧ first.cursor.index = second.cursor.index

variable {automaton : Automaton κ} {text : Text} {config later next : Config κ}
  {round count fuel : Nat} {outcome : Outcome κ}

/-! ### Rounds and bounds -/

theorem runFor_eq_divergent_iff :
    automaton.runFor fuel config = .divergent ↔
      ∃ later, automaton.atRound? fuel config = some later := by
  induction fuel generalizing config with
  | zero => simp [runFor, atRound?]
  | succ fuel inductionHypothesis =>
      cases step : automaton.step config with
      | running next => simpa [runFor, atRound?, step] using inductionHypothesis
      | finished tokens => simp [runFor, atRound?, step]
      | failed fault => simp [runFor, atRound?, step]

/-- From the head of a round on, the run goes on as from any other configuration. -/
theorem runFor_add_of_atRound? (reached : automaton.atRound? round config = some later)
    (fuel : Nat) : automaton.runFor (round + fuel) config = automaton.runFor fuel later := by
  induction round generalizing config with
  | zero =>
      cases reached
      rw [Nat.zero_add]
  | succ round inductionHypothesis =>
      rw [Nat.add_right_comm]
      cases step : automaton.step config with
      | running next =>
          simp only [atRound?, step] at reached
          simp only [runFor, step]
          exact inductionHypothesis reached
      | finished tokens => simp [atRound?, step] at reached
      | failed fault => simp [atRound?, step] at reached

theorem exists_step_of_atRound? (reached : automaton.atRound? (round + 1) config = some later) :
    ∃ next, automaton.step config = .running next ∧ automaton.atRound? round next = some later := by
  cases step : automaton.step config with
  | running next =>
      simp only [atRound?, step] at reached
      exact ⟨next, rfl, reached⟩
  | finished tokens => simp [atRound?, step] at reached
  | failed fault => simp [atRound?, step] at reached

theorem atRound?_add_of_atRound? (reached : automaton.atRound? round config = some later)
    (count : Nat) :
    automaton.atRound? (round + count) config = automaton.atRound? count later := by
  induction round generalizing config with
  | zero =>
      cases reached
      rw [Nat.zero_add]
  | succ round inductionHypothesis =>
      obtain ⟨next, step, rest⟩ := exists_step_of_atRound? reached
      rw [Nat.add_right_comm]
      simp only [atRound?, step]
      exact inductionHypothesis rest

theorem runFor_one (ended : (automaton.step config).outcome? = some outcome) :
    automaton.runFor 1 config = outcome ∧ outcome ≠ .divergent := by
  unfold runFor
  cases step : automaton.step config with
  | running next => simp [step, Progress.outcome?] at ended
  | finished tokens =>
      simp only [step, Progress.outcome?, Option.some.injEq] at ended
      simp [← ended]
  | failed fault =>
      simp only [step, Progress.outcome?, Option.some.injEq] at ended
      simp [← ended]

theorem EndsIn.runFor_eq (ends : automaton.EndsIn text round outcome) :
    automaton.runFor (round + 1) (.initial text) = outcome := by
  obtain ⟨config, reached, ended⟩ := ends
  rw [runFor_add_of_atRound? reached, (runFor_one ended).1]

theorem EndsIn.endsAfter (ends : automaton.EndsIn text round outcome) :
    automaton.EndsAfter round (.initial text) := by
  refine ⟨?_, ?_⟩
  · obtain ⟨config, reached, _⟩ := ends
    exact runFor_eq_divergent_iff.mpr ⟨config, reached⟩
  · rw [ends.runFor_eq]
    obtain ⟨config, _, ended⟩ := ends
    exact (runFor_one ended).2

theorem EndsAfter.exists_endsIn (ends : automaton.EndsAfter round (.initial text)) :
    ∃ outcome, automaton.EndsIn text round outcome := by
  obtain ⟨running, ended⟩ := ends
  obtain ⟨config, reached⟩ := runFor_eq_divergent_iff.mp running
  rw [runFor_add_of_atRound? reached] at ended
  cases step : automaton.step config with
  | running next => simp [runFor, step] at ended
  | finished tokens => exact ⟨.accepted tokens, config, reached, by simp [step, Progress.outcome?]⟩
  | failed fault => exact ⟨.rejected fault, config, reached, by simp [step, Progress.outcome?]⟩

/-- A run that ends has ended for each of its rounds, and each has its own number of steps left. -/
theorem EndsAfter.atRound? (ends : automaton.EndsAfter count config)
    (reached : automaton.atRound? round config = some later) :
    round ≤ count ∧ automaton.EndsAfter (count - round) later := by
  have running : automaton.runFor round config = .divergent :=
    runFor_eq_divergent_iff.mpr ⟨later, reached⟩
  have inside : round ≤ count := by
    by_contra beyond
    have same := runFor_eq_of_le ends.2 (Nat.lt_of_not_le beyond)
    exact ends.2 (same ▸ running)
  refine ⟨inside, ?_, ?_⟩
  · rw [← runFor_add_of_atRound? reached, Nat.add_sub_cancel' inside]
    exact ends.1
  · rw [← runFor_add_of_atRound? reached, ← Nat.add_assoc, Nat.add_sub_cancel' inside]
    exact ends.2

theorem runsForever_iff_never_ends :
    automaton.RunsForever text ↔ ∀ round outcome, ¬automaton.EndsIn text round outcome := by
  constructor
  · intro forever round outcome ends
    obtain ⟨later, reached⟩ := forever (round + 1)
    have beyond := (ends.endsAfter.atRound? reached).1
    omega
  · intro never round
    apply runFor_eq_divergent_iff.mp
    by_contra ended
    obtain ⟨count, _, ends⟩ := exists_endsAfter ended
    obtain ⟨outcome, endsIn⟩ := ends.exists_endsIn
    exact never count outcome endsIn

/-! ### Rounds and outcomes -/

theorem EndsIn.tokenize_eq (ends : automaton.EndsIn text round outcome)
    (wellFormed : automaton.WellFormed) : automaton.tokenize text = outcome := by
  have reported := ends.runFor_eq
  rw [← reported]
  exact tokenize_eq_runFor wellFormed ends.endsAfter.2

theorem exists_endsIn_of_tokenize (ended : automaton.tokenize text ≠ .divergent) :
    ∃ round < automaton.stepBound text,
      automaton.EndsIn text round (automaton.tokenize text) := by
  obtain ⟨round, bounded, ends⟩ := exists_endsAfter ended
  obtain ⟨outcome, endsIn⟩ := ends.exists_endsIn
  have same : automaton.tokenize text = outcome :=
    (runFor_eq_of_le ends.2 bounded).trans endsIn.runFor_eq
  rw [same]
  exact ⟨round, bounded, endsIn⟩

theorem RunsForever.tokenize_eq (forever : automaton.RunsForever text) :
    automaton.tokenize text = .divergent :=
  runFor_eq_divergent_iff.mpr (forever _)

theorem runsForever_of_tokenize (wellFormed : automaton.WellFormed)
    (divergent : automaton.tokenize text = .divergent) : automaton.RunsForever text := by
  rw [runsForever_iff_never_ends]
  intro round outcome ends
  have reported := ends.runFor_eq
  rw [← ends.tokenize_eq wellFormed, divergent] at reported
  exact ends.endsAfter.2 reported

theorem exists_atRound?_of_le {earlier : Nat}
    (reached : automaton.atRound? round config = some later) (before : earlier ≤ round) :
    ∃ between, automaton.atRound? earlier config = some between := by
  rw [← runFor_eq_divergent_iff]
  by_contra ended
  have same := runFor_eq_of_le ended before
  rw [runFor_eq_divergent_iff.mpr ⟨later, reached⟩] at same
  exact ended same.symm

/-- A fault shows the configuration in which it arises. -/
theorem fault_eq_of_step {fault : Fault} (step : automaton.step config = .failed fault) :
    fault = config.fault fault.cause := by
  rcases automaton.step_cases config with
    ⟨done, finished⟩ | ⟨transition, target, taken, proceeded⟩ | ⟨notDone, cause, refused, failed⟩
  · simp [finished] at step
  · rw [proceeded, Config.proceed] at step
    split at step <;> simp at step
  · rw [failed] at step
    obtain rfl := Progress.failed.inj step
    rfl

/-! ### Repeated places -/

theorem exists_takes_of_step (step : automaton.step config = .running next) :
    ∃ transition, automaton.Takes config transition next := by
  rcases automaton.step_cases config with
    ⟨done, finished⟩ | ⟨transition, target, taken, proceeded⟩ | ⟨notDone, cause, refused, failed⟩
  · simp [finished] at step
  · rw [proceeded] at step
    cases consumed : transition.consumesEnd config.cursor with
    | true => simp [consumed, Config.proceed] at step
    | false =>
        simp only [consumed, Config.proceed, Bool.false_eq_true, ↓reduceIte,
          Progress.running.injEq] at step
        exact ⟨transition, step ▸ taken⟩
  · simp [failed] at step

theorem inside_of_atRound? (wellFormed : automaton.WellFormed)
    (inside : config.Inside automaton text)
    (reached : automaton.atRound? round config = some later) : later.Inside automaton text := by
  induction round generalizing config with
  | zero =>
      cases reached
      exact inside
  | succ round inductionHypothesis =>
      cases step : automaton.step config with
      | running next =>
          simp only [atRound?, step] at reached
          obtain ⟨transition, taken⟩ := exists_takes_of_step step
          exact inductionHypothesis (inside.next wellFormed taken) reached
      | finished tokens => simp [atRound?, step] at reached
      | failed fault => simp [atRound?, step] at reached

/-- There are fewer places than rounds, so two rounds share one. -/
theorem RunsForever.repeatsPlace (forever : automaton.RunsForever text)
    (wellFormed : automaton.WellFormed) : automaton.RepeatsPlace text := by
  choose head reached using forever
  have inside (round : Nat) : (head round).Inside automaton text :=
    inside_of_atRound? wellFormed (Config.inside_initial wellFormed text) (reached round)
  let place : Fin (automaton.stepBound text + 1) → Fin automaton.size × Fin (text.length + 1) :=
    fun round => (⟨(head round).state, (inside round).state_lt⟩,
      ⟨(head round).cursor.index, Nat.lt_succ_of_le (inside round).within.1⟩)
  have crowded : Fintype.card (Fin automaton.size × Fin (text.length + 1)) <
      Fintype.card (Fin (automaton.stepBound text + 1)) := by
    rw [Fintype.card_prod, Fintype.card_fin, Fintype.card_fin, Fintype.card_fin]
    exact Nat.lt_succ_self _
  obtain ⟨left, right, different, same⟩ := Fintype.exists_ne_map_eq_of_card_lt place crowded
  simp only [place, Prod.mk.injEq, Fin.mk.injEq] at same
  rcases Nat.lt_or_gt_of_ne (Fin.val_ne_of_ne different) with before | behind
  · exact ⟨left, right, _, _, before, reached left, reached right, same⟩
  · exact ⟨right, left, _, _, behind, reached right, reached left, same.1.symm, same.2.symm⟩

/-- From the same place two rounds have the same number of steps left, which is never the case in a
run that ends. -/
theorem RepeatsPlace.runsForever (repeated : automaton.RepeatsPlace text)
    (wellFormed : automaton.WellFormed) : automaton.RunsForever text := by
  obtain ⟨earlier, later, first, second, before, reached, reachedAgain, sameState, sameIndex⟩ :=
    repeated
  have inside := Config.inside_initial wellFormed text
  have sameCursor : first.cursor = second.cursor :=
    (inside_of_atRound? wellFormed inside reached).within.eq_of_index_eq
      (inside_of_atRound? wellFormed inside reachedAgain).within sameIndex
  rw [runsForever_iff_never_ends]
  intro round outcome ends
  obtain ⟨_, firstEnds⟩ := ends.endsAfter.atRound? reached
  obtain ⟨bounded, secondEnds⟩ := ends.endsAfter.atRound? reachedAgain
  have sameLeft := firstEnds.eq_of_samePlace secondEnds ⟨sameState, sameCursor⟩
  omega

end Automaton

/-- A run goes on for ever exactly when it repeats a state at a place of the text; a run that ends
does so within `size * (length + 1)` rounds.  So a run that is cut off after that many rounds has the
outcome of the unbounded run, if that has one, and is cut off only if it has none. -/
theorem runsForever_iff_repeatsPlace {automaton : Automaton κ} (wellFormed : automaton.WellFormed)
    (text : Text) :
    (automaton.RunsForever text ↔ automaton.RepeatsPlace text) ∧
    (automaton.RunsForever text ↔ ∀ round outcome, ¬automaton.EndsIn text round outcome) ∧
    (∀ round outcome, automaton.EndsIn text round outcome →
      round + 1 ≤ automaton.size * (text.length + 1) ∧
      automaton.runFor (automaton.size * (text.length + 1)) (.initial text) = outcome) ∧
    (automaton.runFor (automaton.size * (text.length + 1)) (.initial text) = .divergent ↔
      automaton.RunsForever text) := by
  have bounded : ∀ round outcome, automaton.EndsIn text round outcome →
      round + 1 ≤ automaton.size * (text.length + 1) :=
    fun round outcome ends =>
      ends.endsAfter.lt_stepBound wellFormed (Config.inside_initial wellFormed text)
  refine ⟨⟨fun forever => forever.repeatsPlace wellFormed,
    fun repeated => repeated.runsForever wellFormed⟩,
    Automaton.runsForever_iff_never_ends, ?_, ?_, ?_⟩
  · intro round outcome ends
    refine ⟨bounded round outcome ends, ?_⟩
    rw [Automaton.runFor_eq_of_le ends.endsAfter.2 (bounded round outcome ends), ends.runFor_eq]
  · intro cutOff
    rw [Automaton.runsForever_iff_never_ends]
    intro round outcome ends
    have reported := Automaton.runFor_eq_of_le ends.endsAfter.2 (bounded round outcome ends)
    exact ends.endsAfter.2 (reported ▸ cutOff)
  · intro forever
    exact Automaton.runFor_eq_divergent_iff.mpr (forever _)

/-- Each digit is a token, and in front of a letter the run does not move. -/
def idleAtLetters : List (Call Nat) :=
  [.on 0 .digit, .emit 0 7, .on 0 .letter, .rewind 1, .stay 1]

theorem idleAtLetters_runsForever :
    (Call.automaton idleAtLetters).WellFormed ∧
      (Call.automaton idleAtLetters).RepeatsPlace "1a".toList ∧
      (Call.automaton idleAtLetters).RunsForever "1a".toList ∧
      (Call.automaton idleAtLetters).runFor (1 * 3) (.initial "1a".toList) = .divergent ∧
      (Call.automaton idleAtLetters).EndsIn "12".toList 2
        (.accepted [⟨7, ['1']⟩, ⟨7, ['2']⟩]) ∧
      (Call.automaton idleAtLetters).runFor (1 * 3) (.initial "12".toList) =
        .accepted [⟨7, ['1']⟩, ⟨7, ['2']⟩] := by
  have wellFormed := Call.automaton_wellFormed idleAtLetters
  have repeated : (Call.automaton idleAtLetters).RepeatsPlace "1a".toList :=
    ⟨1, 2, _, _, Nat.lt_succ_self 1, rfl, rfl, rfl, rfl⟩
  have ends : (Call.automaton idleAtLetters).EndsIn "12".toList 2
      (.accepted [⟨7, ['1']⟩, ⟨7, ['2']⟩]) := ⟨_, rfl, rfl⟩
  obtain ⟨forever, _, _, cutOff⟩ := runsForever_iff_repeatsPlace wellFormed "1a".toList
  obtain ⟨_, _, bounded, _⟩ := runsForever_iff_repeatsPlace wellFormed "12".toList
  exact ⟨wellFormed, repeated, forever.mpr repeated, cutOff.mpr (forever.mpr repeated), ends,
    (bounded 2 _ ends).2⟩

end LexKit

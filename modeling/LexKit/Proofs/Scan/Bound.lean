import LexKit.Proofs.Automaton.WellFormed
import LexKit.Proofs.Scan.Lockstep
import Mathlib.Data.Fintype.Prod

/-!
How long a run can be.

What a run does from a configuration on depends on its state and its place in the text alone, so a
run that comes to an end passes no state twice at the same place.  There are only as many such
pairs as `Automaton.stepBound` counts, which makes the bounded run of `Automaton.tokenize` exact.
-/

namespace LexKit

variable {κ : Type}

namespace Config

/-- Two configurations that differ at most in what has been collected. -/
def SamePlace (left right : Config κ) : Prop :=
  left.state = right.state ∧ left.cursor = right.cursor

/-- A configuration in a state of the automaton and at a place of the text. -/
structure Inside (automaton : Automaton κ) (text : Text) (config : Config κ) : Prop where
  state_lt : config.state < automaton.size
  within : Cursor.Within text config.cursor

theorem inside_initial {automaton : Automaton κ} (wellFormed : automaton.WellFormed)
    (text : Text) : Inside automaton text (.initial text) :=
  ⟨wellFormed.start_lt, .ofText text⟩

theorem Inside.next {automaton : Automaton κ} {text : Text} {config next : Config κ}
    {transition : Transition κ} (inside : Inside automaton text config)
    (wellFormed : automaton.WellFormed) (taken : automaton.Takes config transition next) :
    Inside automaton text next := by
  obtain ⟨_, selected, leads⟩ := taken
  constructor
  · rcases next?_cases leads with ⟨state, decided, target⟩ | ⟨kind, decided, target⟩
    · rw [target]
      exact wellFormed.target_lt _ _ (Automaton.mem_of_select? selected) state decided
    · rw [target]
      exact wellFormed.start_lt
  · rw [cursor_next? leads]
    exact Transition.within_move inside.within

end Config

namespace Automaton

theorem step_samePlace (automaton : Automaton κ) (left right : Config κ)
    (same : left.SamePlace right) :
    Progress.Related Config.SamePlace (fun _ _ => True) (fun _ _ => True)
      (automaton.step left) (automaton.step right) := by
  obtain ⟨sameState, sameCursor⟩ := same
  apply automaton.step_alike (fun _ _ _ => trivial) ⟨sameState, sameCursor⟩ sameState
  · rw [sameCursor]
  · exact fun _ => trivial
  · intro transition state
    exact ⟨rfl, by rw [sameCursor]⟩
  · intro transition kind
    exact ⟨rfl, by rw [sameCursor]⟩

/-- The run from a configuration takes exactly `count` steps before the one that ends it. -/
def EndsAfter (automaton : Automaton κ) (count : Nat) (config : Config κ) : Prop :=
  automaton.runFor count config = .divergent ∧ automaton.runFor (count + 1) config ≠ .divergent

theorem exists_endsAfter {automaton : Automaton κ} {fuel : Nat} {config : Config κ}
    (ended : automaton.runFor fuel config ≠ .divergent) :
    ∃ count < fuel, automaton.EndsAfter count config := by
  induction fuel with
  | zero => exact absurd rfl ended
  | succ fuel inductionHypothesis =>
      by_cases running : automaton.runFor fuel config = .divergent
      · exact ⟨fuel, Nat.lt_succ_self fuel, running, ended⟩
      · obtain ⟨count, bounded, ends⟩ := inductionHypothesis running
        exact ⟨count, Nat.lt_succ_of_lt bounded, ends⟩

namespace EndsAfter

variable {automaton : Automaton κ} {config other : Config κ} {count otherCount : Nat}

theorem next (ends : automaton.EndsAfter (count + 1) config) :
    ∃ transition next, automaton.Takes config transition next ∧
      automaton.EndsAfter count next := by
  obtain ⟨running, ended⟩ := ends
  rcases automaton.step_cases config with
    ⟨done, step⟩ | ⟨transition, next, taken, step⟩ | ⟨notDone, cause, refused, step⟩
  · simp [runFor, step] at running
  · cases consumed : transition.consumesEnd config.cursor with
    | true => simp [runFor, step, consumed, Config.proceed] at running
    | false =>
        simp only [consumed, Config.proceed, Bool.false_eq_true, ↓reduceIte] at step
        unfold runFor at running ended
        simp only [step] at running ended
        exact ⟨transition, next, taken, running, ended⟩
  · simp [runFor, step] at running

theorem le_of_samePlace (ends : automaton.EndsAfter count config)
    (otherEnds : automaton.EndsAfter otherCount other) (same : config.SamePlace other) :
    otherCount ≤ count := by
  have alike := runFor_related automaton.step_samePlace (count + 1) same
  have otherEnded : automaton.runFor (count + 1) other ≠ .divergent := by
    intro divergent
    exact ends.2 (alike.divergent_iff.mpr divergent)
  by_contra larger
  have reported := runFor_eq_of_le otherEnded (Nat.lt_of_not_le larger)
  exact otherEnded (reported ▸ otherEnds.1)

theorem eq_of_samePlace (ends : automaton.EndsAfter count config)
    (otherEnds : automaton.EndsAfter otherCount other) (same : config.SamePlace other) :
    count = otherCount := by
  have turned : other.SamePlace config := ⟨same.1.symm, same.2.symm⟩
  exact Nat.le_antisymm (otherEnds.le_of_samePlace ends turned) (ends.le_of_samePlace otherEnds same)

theorem exists_of_le {text : Text} (ends : automaton.EndsAfter count config)
    (wellFormed : automaton.WellFormed) (inside : config.Inside automaton text) {fewer : Nat}
    (bounded : fewer ≤ count) :
    ∃ later : Config κ, later.Inside automaton text ∧ automaton.EndsAfter fewer later := by
  induction count generalizing config with
  | zero =>
      obtain rfl := Nat.le_zero.mp bounded
      exact ⟨config, inside, ends⟩
  | succ count inductionHypothesis =>
      rcases Nat.eq_or_lt_of_le bounded with rfl | smaller
      · exact ⟨config, inside, ends⟩
      · obtain ⟨transition, next, taken, nextEnds⟩ := ends.next
        exact inductionHypothesis nextEnds (inside.next wellFormed taken)
          (Nat.le_of_lt_succ smaller)

/-- A run that comes to an end visits each state at most once at each place. -/
theorem lt_stepBound {text : Text} (ends : automaton.EndsAfter count config)
    (wellFormed : automaton.WellFormed) (inside : config.Inside automaton text) :
    count < automaton.stepBound text := by
  -- For each number of steps that can be left there is a configuration, each at a place of its own.
  have visited : ∀ left : Fin (count + 1), ∃ later : Config κ,
      later.Inside automaton text ∧ automaton.EndsAfter left later :=
    fun left => ends.exists_of_le wellFormed inside (Nat.le_of_lt_succ left.isLt)
  choose later laterInside laterEnds using visited
  let place : Fin (count + 1) → Fin automaton.size × Fin (text.length + 1) := fun left =>
    (⟨(later left).state, (laterInside left).state_lt⟩,
      ⟨(later left).cursor.index, Nat.lt_succ_of_le (laterInside left).within.1⟩)
  have injective : Function.Injective place := by
    intro left right samePlace
    simp only [place, Prod.mk.injEq, Fin.mk.injEq] at samePlace
    have sameCursor :=
      (laterInside left).within.eq_of_index_eq (laterInside right).within samePlace.2
    apply Fin.ext
    exact (laterEnds left).eq_of_samePlace (laterEnds right) ⟨samePlace.1, sameCursor⟩
  have counted := Fintype.card_le_of_injective place injective
  simp only [Fintype.card_fin, Fintype.card_prod] at counted
  exact counted

end EndsAfter

theorem tokenize_eq_runFor {automaton : Automaton κ} (wellFormed : automaton.WellFormed)
    {text : Text} {fuel : Nat} (ended : automaton.runFor fuel (.initial text) ≠ .divergent) :
    automaton.tokenize text = automaton.runFor fuel (.initial text) := by
  obtain ⟨count, bounded, ends⟩ := exists_endsAfter ended
  have enough : count + 1 ≤ automaton.stepBound text :=
    ends.lt_stepBound wellFormed (Config.inside_initial wellFormed text)
  rw [tokenize, runFor_eq_of_le ends.2 enough, runFor_eq_of_le ends.2 bounded]

theorem Run.tokenize_eq {automaton : Automaton κ} {text : Text} {moves : List (Move κ)}
    {outcome : Outcome κ} (run : automaton.Run (.initial text) moves outcome)
    (wellFormed : automaton.WellFormed) : automaton.tokenize text = outcome := by
  have reported := run.runFor_eq (Nat.lt_succ_self moves.length)
  rw [tokenize_eq_runFor wellFormed (reported ▸ run.ne_divergent), reported]

theorem exists_run_of_tokenize {automaton : Automaton κ} {text : Text}
    (ended : automaton.tokenize text ≠ .divergent) :
    ∃ moves, automaton.Run (.initial text) moves (automaton.tokenize text) := by
  obtain ⟨moves, _, run⟩ := exists_run_of_runFor ended
  exact ⟨moves, run⟩

end Automaton

end LexKit

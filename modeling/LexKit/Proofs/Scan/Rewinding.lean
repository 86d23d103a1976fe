import LexKit.Proofs.Scan.Divergence
import LexKit.Proofs.Scan.FaultLocation
import Mathlib.Logic.Relation

/-!
A certificate of termination.

A run stays where it is in the text only along transitions that reread their character.  These
transitions make a graph of the states, in which a finished token is an edge back to the start
state.  A run without end comes back to a state at the same place, so it has gone around a circle of
that graph; an automaton whose graph has no circle comes to an end on every text.
-/

namespace LexKit

variable {κ : Type}

namespace Automaton

/-- A transition that rereads its character leads from one state to another. -/
def Rewinds (automaton : Automaton κ) (source target : StateId) : Prop :=
  ∃ transition ∈ automaton.state source,
    transition.rereads = true ∧ transition.target? = some target

/-- Rereading never leads from a state back to the same state. -/
def RewindsAcyclic (automaton : Automaton κ) : Prop :=
  ∀ state, ¬Relation.TransGen automaton.Rewinds state state

/-- The numbers of the states fall along every transition that rereads its character. -/
def RankedBy (automaton : Automaton κ) (rank : StateId → Nat) : Prop :=
  ∀ source < automaton.size, ∀ transition ∈ automaton.state source,
    transition.rereads = true → ∀ target ∈ transition.target?, rank target < rank source

instance (automaton : Automaton κ) (rank : StateId → Nat) : Decidable (automaton.RankedBy rank) :=
  inferInstanceAs (Decidable (∀ source < automaton.size, ∀ transition ∈ automaton.state source,
    transition.rereads = true → ∀ target ∈ transition.target?, rank target < rank source))

variable {automaton : Automaton κ} {text : Text} {config later next : Config κ}
  {transition : Transition κ} {round : Nat}

theorem Rewinds.source_lt {source target : StateId} (rewinds : automaton.Rewinds source target) :
    source < automaton.size := by
  obtain ⟨transition, listed, _⟩ := rewinds
  by_contra beyond
  rw [automaton.state_of_size_le (Nat.le_of_not_lt beyond)] at listed
  exact List.not_mem_nil listed

theorem RankedBy.acyclic {rank : StateId → Nat} (ranked : automaton.RankedBy rank) :
    automaton.RewindsAcyclic := by
  have falls {source target : StateId} (rewinds : automaton.Rewinds source target) :
      rank target < rank source := by
    have inside := rewinds.source_lt
    obtain ⟨transition, listed, rereads, leads⟩ := rewinds
    exact ranked source inside transition listed rereads target leads
  intro state circle
  have fallen : ∀ {target}, Relation.TransGen automaton.Rewinds state target →
      rank target < rank state := by
    intro target path
    induction path with
    | single rewinds => exact falls rewinds
    | tail _ rewinds inductionHypothesis => exact Nat.lt_trans (falls rewinds) inductionHypothesis
  exact Nat.lt_irrefl _ (fallen circle)

/-! ### Rounds at one place -/

theorem Takes.consumesEnd_eq_false_of_step (taken : automaton.Takes config transition next)
    (step : automaton.step config = .running later) :
    transition.consumesEnd config.cursor = false := by
  rw [taken.step] at step
  cases consumed : transition.consumesEnd config.cursor with
  | true => simp [consumed, Config.proceed] at step
  | false => rfl

/-- A step that leaves the run going at the same place rereads its character. -/
theorem rewinds_of_step (step : automaton.step config = .running next)
    (within : Cursor.Within text config.cursor)
    (stays : next.cursor.index = config.cursor.index) :
    automaton.Rewinds config.state next.state := by
  obtain ⟨transition, taken⟩ := exists_takes_of_step step
  have running := taken.consumesEnd_eq_false_of_step step
  have rereads : transition.rereads = true := by
    -- A character that is not reread moves the place, and the end of the text ends the run.
    by_contra passes
    rw [Bool.not_eq_true] at passes
    have before : config.cursor.atEnd = false := by
      simpa [Transition.consumesEnd, passes] using running
    have passed : transition.passes config.cursor = true := by
      simp [Transition.passes, passes, before]
    have moved := taken.index_eq within
    rw [passed, if_pos rfl] at moved
    omega
  exact ⟨transition, mem_of_select? taken.selected, rereads,
    Config.target?_of_next? taken.leads⟩

theorem index_le_of_step (step : automaton.step config = .running next)
    (within : Cursor.Within text config.cursor) :
    config.cursor.index ≤ next.cursor.index ∧ Cursor.Within text next.cursor := by
  obtain ⟨transition, taken⟩ := exists_takes_of_step step
  exact ⟨taken.index_le within, taken.within within⟩

theorem index_le_of_atRound? (reached : automaton.atRound? round config = some later)
    (within : Cursor.Within text config.cursor) :
    config.cursor.index ≤ later.cursor.index := by
  induction round generalizing config with
  | zero =>
      cases reached
      exact Nat.le_refl _
  | succ round inductionHypothesis =>
      obtain ⟨next, step, rest⟩ := exists_step_of_atRound? reached
      obtain ⟨before, nextWithin⟩ := index_le_of_step step within
      exact Nat.le_trans before (inductionHypothesis rest nextWithin)

/-- Two rounds that begin at the same place are joined by rereading.  The place never falls, so none
of the rounds in between has left it. -/
theorem rewinds_of_atRound? (reached : automaton.atRound? (round + 1) config = some later)
    (within : Cursor.Within text config.cursor)
    (stays : later.cursor.index = config.cursor.index) :
    Relation.TransGen automaton.Rewinds config.state later.state := by
  induction round generalizing config with
  | zero =>
      obtain ⟨next, step, rest⟩ := exists_step_of_atRound? reached
      cases rest
      exact .single (rewinds_of_step step within stays)
  | succ round inductionHypothesis =>
      obtain ⟨next, step, rest⟩ := exists_step_of_atRound? reached
      obtain ⟨before, nextWithin⟩ := index_le_of_step step within
      have behind := index_le_of_atRound? rest nextWithin
      have nextStays : next.cursor.index = config.cursor.index := by omega
      exact .head (rewinds_of_step step within nextStays)
        (inductionHypothesis rest nextWithin (stays.trans nextStays.symm))

theorem RunsForever.exists_circle (forever : automaton.RunsForever text)
    (wellFormed : automaton.WellFormed) :
    ∃ state, Relation.TransGen automaton.Rewinds state state := by
  obtain ⟨earlier, later, first, second, before, reached, reachedAgain, sameState, sameIndex⟩ :=
    forever.repeatsPlace wellFormed
  obtain ⟨count, rfl⟩ := Nat.exists_eq_add_of_lt before
  rw [Nat.add_assoc, atRound?_add_of_atRound? reached] at reachedAgain
  have inside := Config.inside_initial wellFormed text
  have within := (inside_of_atRound? wellFormed inside reached).within
  have circle := rewinds_of_atRound? reachedAgain within sameIndex.symm
  rw [← sameState] at circle
  exact ⟨first.state, circle⟩

end Automaton

/-- A well-formed automaton in which rereading never leads back to the same state comes to an end on
every text. -/
theorem tokenize_ends_of_rewindsAcyclic {automaton : Automaton κ}
    (wellFormed : automaton.WellFormed) (acyclic : automaton.RewindsAcyclic) (text : Text) :
    ¬automaton.RunsForever text ∧ automaton.tokenize text ≠ .divergent ∧
      ∃ round < automaton.stepBound text,
        automaton.EndsIn text round (automaton.tokenize text) := by
  have ends : ¬automaton.RunsForever text := by
    intro forever
    obtain ⟨state, circle⟩ := forever.exists_circle wellFormed
    exact acyclic state circle
  have ended : automaton.tokenize text ≠ .divergent :=
    fun divergent => ends (Automaton.runsForever_of_tokenize wellFormed divergent)
  exact ⟨ends, ended, Automaton.exists_endsIn_of_tokenize ended⟩

/-- Numbers, and percentages, which are told from numbers in a state of their own by rereading what
follows the digits. -/
def percentages : List (Call Nat) :=
  [.on 0 .digit, .moveToNew 0, .on 1 .digit, .stay 1, .on 1 .any, .rewind 2, .moveToNew 2,
    .on 2 (.oneOf ['%']), .emit 3 8, .on 2 .any, .rewind 4, .emit 4 7]

theorem percentages_end :
    (Call.automaton percentages).RewindsAcyclic ∧
      (Call.automaton percentages).Rewinds 1 2 ∧
      (Call.automaton percentages).Rewinds 2 StateId.start ∧
      ¬(Call.automaton percentages).RunsForever "12%3".toList ∧
      ∃ round < 3 * 5, (Call.automaton percentages).EndsIn "12%3".toList round
        (.accepted [⟨8, "12%".toList⟩, ⟨7, "3".toList⟩]) := by
  have ranked : (Call.automaton percentages).RankedBy fun state => (3 - state) % 3 := by decide
  obtain ⟨ends, _, round, bounded, endsIn⟩ := tokenize_ends_of_rewindsAcyclic
    (Call.automaton_wellFormed percentages) ranked.acyclic "12%3".toList
  have accepted : (Call.automaton percentages).tokenize "12%3".toList =
      .accepted [⟨8, "12%".toList⟩, ⟨7, "3".toList⟩] := by decide
  rw [accepted] at endsIn
  refine ⟨ranked.acyclic, ?_, ?_, ends, round, bounded, endsIn⟩
  · exact ⟨⟨.any, false, true, some (.moveTo 2)⟩, by decide, rfl, rfl⟩
  · exact ⟨⟨.any, false, true, some (.emit 7)⟩, by decide, rfl, rfl⟩

end LexKit

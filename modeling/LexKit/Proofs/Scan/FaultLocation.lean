import LexKit.Proofs.Scan.Bound
import LexKit.Proofs.Scan.Position

/-!
Faults tell the truth.

The places of a run are described without cursors, tokens or bounds: a place is a state and a number
of characters passed, and one place leads to the next along the first transition that handles the
input.  A text is rejected exactly when the run comes to a place that can not deal with its input,
and the fault says which place that is and what is wrong there.
-/

namespace LexKit

variable {κ : Type}

/-- The state to which a transition leads.  A finished token leads back to the start state. -/
def Transition.target? (transition : Transition κ) : Option StateId :=
  match transition.disposition with
  | some (.moveTo state) => some state
  | some (.emit _) => some StateId.start
  | some (.fail _) => none
  | none => none

namespace Config

variable {config next : Config κ} {transition : Transition κ} {text : Text}

theorem target?_of_next? (leads : config.next? transition = some next) :
    transition.target? = some next.state := by
  rcases next?_cases leads with ⟨state, decided, rfl⟩ | ⟨kind, decided, rfl⟩
  · simp [Transition.target?, decided]
  · simp [Transition.target?, decided]

theorem exists_next?_of_target? {state : StateId} (leads : transition.target? = some state)
    (config : Config κ) :
    ∃ next, config.next? transition = some next ∧ next.state = state := by
  cases found : config.next? transition with
  | some next =>
      refine ⟨next, rfl, ?_⟩
      rw [target?_of_next? found] at leads
      exact Option.some.inj leads
  | none =>
      rcases next?_eq_none_cases found with ⟨message, fails⟩ | undecided
      · simp [Transition.target?, fails] at leads
      · simp [Transition.target?, undecided] at leads

theorem isDone_eq_false_iff (within : Cursor.Within text config.cursor) :
    config.isDone = false ↔
      ¬(config.state = StateId.start ∧ config.cursor.index = text.length) := by
  rw [← Bool.not_eq_true, isDone, Bool.and_eq_true, beq_iff_eq, within.atEnd_iff]

end Config

namespace Automaton

/-- The places of a run over a text: the states that it comes to, each with the number of characters
passed by then.  There is no place behind a clean end between tokens, nor behind a transition that
consumes the end of the text. -/
inductive Visits (automaton : Automaton κ) (text : Text) : StateId → Nat → Prop where
  | start : Visits automaton text StateId.start 0
  | pass {state target : StateId} {index : Nat} {transition : Transition κ}
      (earlier : Visits automaton text state index) (inside : index < text.length)
      (selected : automaton.select? state text[index]? = some transition)
      (passes : transition.rereads = false) (leads : transition.target? = some target) :
      Visits automaton text target (index + 1)
  | reread {state target : StateId} {index : Nat} {transition : Transition κ}
      (earlier : Visits automaton text state index)
      (unfinished : ¬(state = StateId.start ∧ index = text.length))
      (selected : automaton.select? state text[index]? = some transition)
      (rereads : transition.rereads = true) (leads : transition.target? = some target) :
      Visits automaton text target index

variable {automaton : Automaton κ} {text : Text} {state : StateId} {index : Nat}
  {config next : Config κ} {transition : Transition κ} {moves : List (Move κ)}
  {outcome : Outcome κ}

theorem Visits.index_le (visited : automaton.Visits text state index) : index ≤ text.length := by
  induction visited with
  | start => exact Nat.zero_le _
  | pass earlier inside => exact inside
  | reread earlier unfinished _ _ _ inductionHypothesis => exact inductionHypothesis

end Automaton

/-- A fault that names a place of the run, what is wrong there, and where a reader finds it. -/
structure Fault.Genuine (automaton : Automaton κ) (text : Text) (fault : Fault) : Prop where
  visited : automaton.Visits text fault.state fault.offset
  unfinished : ¬(fault.state = StateId.start ∧ fault.offset = text.length)
  refused : automaton.Refuses fault.state text[fault.offset]? fault.cause
  line : fault.pos.line = 1 + (text.take fault.offset).count '\n'
  column : fault.pos.column = SourcePos.lastColumn (text.take fault.offset)

namespace Fault.Genuine

variable {automaton : Automaton κ} {text : Text} {fault : Fault}

end Fault.Genuine

namespace Automaton

variable {automaton : Automaton κ} {text : Text} {state : StateId} {index : Nat}
  {config next : Config κ} {transition : Transition κ} {moves : List (Move κ)}
  {outcome : Outcome κ}

/-! ### From runs to places -/

theorem Takes.visits (taken : automaton.Takes config transition next)
    (running : transition.consumesEnd config.cursor = false)
    (within : Cursor.Within text config.cursor)
    (visited : automaton.Visits text config.state config.cursor.index) :
    automaton.Visits text next.state next.cursor.index := by
  have selected := taken.selected
  rw [within.peek?] at selected
  have leads := Config.target?_of_next? taken.leads
  rw [taken.index_eq within]
  cases reread : transition.rereads with
  | true =>
      have kept : transition.passes config.cursor = false := by simp [Transition.passes, reread]
      have unfinished := (Config.isDone_eq_false_iff within).mp taken.notDone
      rw [kept]
      exact .reread visited unfinished selected reread leads
  | false =>
      have before : config.cursor.atEnd = false := by
        simpa [Transition.consumesEnd, reread] using running
      have passed : transition.passes config.cursor = true := by
        simp [Transition.passes, reread, before]
      rw [passed]
      exact .pass visited (within.index_lt before) selected reread leads

theorem Refuses.genuine {cause : FaultCause}
    (refused : automaton.Refuses config.state config.cursor.peek? cause)
    (notDone : config.isDone = false) (within : Cursor.Within text config.cursor)
    (visited : automaton.Visits text config.state config.cursor.index) :
    (config.fault cause).Genuine automaton text where
  visited := visited
  unfinished := (Config.isDone_eq_false_iff within).mp notDone
  refused := by
    rw [within.peek?] at refused
    exact refused
  line := by
    rw [Config.fault, within.pos, SourcePos.visitAll_origin]
  column := by
    rw [Config.fault, within.pos, SourcePos.visitAll_origin]

/-- A run that starts at one of the places comes to a genuine fault, if it comes to any. -/
theorem Run.genuine {fault : Fault} (run : automaton.Run config moves (.rejected fault))
    (within : Cursor.Within text config.cursor)
    (visited : automaton.Visits text config.state config.cursor.index) :
    fault.Genuine automaton text := by
  generalize shape : Outcome.rejected fault = outcome at run
  induction run with
  | rest => simp at shape
  | close => simp at shape
  | refuse notDone refused =>
      obtain rfl := Outcome.rejected.inj shape
      exact refused.genuine notDone within visited
  | go taken running later inductionHypothesis =>
      exact inductionHypothesis (taken.within within) (taken.visits running within visited) shape

/-! ### From places to runs -/

/-- A run that goes on from behind a transition goes on from in front of it. -/
theorem exists_run_of_target? {target : StateId} (notDone : config.isDone = false)
    (selected : automaton.select? config.state config.cursor.peek? = some transition)
    (running : transition.consumesEnd config.cursor = false)
    (leads : transition.target? = some target)
    (ends : ∀ next : Config κ, next.state = target →
      next.cursor = transition.move config.cursor → ∃ moves, automaton.Run next moves outcome) :
    ∃ moves, automaton.Run config moves outcome := by
  obtain ⟨next, found, reached⟩ := Config.exists_next?_of_target? leads config
  obtain ⟨moves, later⟩ := ends next reached (Config.cursor_next? found)
  exact ⟨_, .go ⟨notDone, selected, found⟩ running later⟩

/-- What every run from a place comes to, the run over the whole text comes to. -/
theorem Visits.exists_run (visited : automaton.Visits text state index)
    (ends : ∀ config : Config κ, config.state = state → config.cursor = .after text index →
      ∃ moves, automaton.Run config moves outcome) :
    ∃ moves, automaton.Run (.initial text) moves outcome := by
  -- Places grow at the back and runs at the front: each case turns what is known of runs from a
  -- place into the same about runs from the place before it.
  induction visited with
  | start => exact ends (.initial text) rfl rfl
  | pass earlier inside selected passes leads inductionHypothesis =>
      apply inductionHypothesis
      intro config atState atIndex
      have before : config.cursor.atEnd = false := by
        rw [atIndex, Bool.eq_false_iff, Ne, Cursor.atEnd_after_iff]
        exact Nat.not_le_of_lt inside
      rw [← atState, ← Cursor.peek?_after, ← atIndex] at selected
      apply exists_run_of_target? _ selected _ leads
      · intro next reached moved
        apply ends next reached
        rw [moved, Transition.move, passes, atIndex]
        exact Cursor.step_after inside
      · simp [Config.isDone, before]
      · simp [Transition.consumesEnd, before]
  | reread earlier unfinished selected rereads leads inductionHypothesis =>
      apply inductionHypothesis
      intro config atState atIndex
      have within : Cursor.Within text config.cursor := by
        rw [atIndex]
        exact .of_after earlier.index_le
      rw [← atState, ← Cursor.peek?_after, ← atIndex] at selected
      apply exists_run_of_target? _ selected _ leads
      · intro next reached moved
        apply ends next reached
        rw [moved, Transition.move, rereads, atIndex]
        rfl
      · rw [Config.isDone_eq_false_iff within, atState, atIndex]
        exact unfinished
      · simp [Transition.consumesEnd, rereads]

end Automaton

end LexKit

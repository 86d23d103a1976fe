import LexKit.Proofs.Scan.Runs

/-!
Two runs side by side.

When the steps of two automata keep a relation between their configurations, so do whole runs: both
end well, both fail, or neither has ended within a given bound.
-/

namespace LexKit

variable {κ ι : Type}

/-- The same kind of progress on both sides, with related results. -/
inductive Progress.Related (configs : Config κ → Config ι → Prop)
    (accepted : List (Token κ) → List (Token ι) → Prop) (rejected : Fault → Fault → Prop) :
    Progress κ → Progress ι → Prop where
  | running {left right} (related : configs left right) :
      Related configs accepted rejected (.running left) (.running right)
  | finished {left right} (related : accepted left right) :
      Related configs accepted rejected (.finished left) (.finished right)
  | failed {left right} (related : rejected left right) :
      Related configs accepted rejected (.failed left) (.failed right)

inductive Outcome.Related (accepted : List (Token κ) → List (Token ι) → Prop)
    (rejected : Fault → Fault → Prop) : Outcome κ → Outcome ι → Prop where
  | accepted {left right} (related : accepted left right) :
      Related accepted rejected (.accepted left) (.accepted right)
  | rejected {left right} (related : rejected left right) :
      Related accepted rejected (.rejected left) (.rejected right)
  | divergent : Related accepted rejected .divergent .divergent

namespace Outcome.Related

variable {accepted : List (Token κ) → List (Token ι) → Prop} {rejected : Fault → Fault → Prop}
  {left : Outcome κ} {right : Outcome ι}

theorem divergent_iff (related : Related accepted rejected left right) :
    left = .divergent ↔ right = .divergent := by
  cases related <;> simp

theorem exists_accepted {tokens : List (Token κ)}
    (related : Related accepted rejected (.accepted tokens) right) :
    ∃ others, right = .accepted others ∧ accepted tokens others := by
  cases related with
  | accepted same => exact ⟨_, rfl, same⟩

theorem exists_rejected {fault : Fault}
    (related : Related accepted rejected (.rejected fault : Outcome κ) right) :
    ∃ other, right = .rejected other ∧ rejected fault other := by
  cases related with
  | rejected same => exact ⟨_, rfl, same⟩

end Outcome.Related

theorem Config.proceed_related {configs : Config κ → Config ι → Prop}
    {accepted : List (Token κ) → List (Token ι) → Prop} {rejected : Fault → Fault → Prop}
    {left : Config κ} {right : Config ι} (ended : Bool) (related : configs left right)
    (tokens : accepted left.tokens.toList right.tokens.toList) :
    Progress.Related configs accepted rejected (left.proceed ended) (right.proceed ended) := by
  cases ended with
  | false => exact .running related
  | true => exact .finished tokens

/-! ### Two configurations of one automaton -/

theorem Config.isDone_alike {left right : Config κ} (sameState : left.state = right.state)
    (sameInput : left.cursor.peek? = right.cursor.peek?) : left.isDone = right.isDone := by
  rw [Config.isDone, Config.isDone, sameState, Cursor.atEnd_alike sameInput]

/-- Two configurations take the same transition if they show the same state and input, and are
related behind it if changing the state and finishing a token keep them related. -/
theorem Automaton.Takes.alike {automaton : Automaton κ} {configs : Config κ → Config κ → Prop}
    {left right target : Config κ} {transition : Transition κ}
    (taken : automaton.Takes right transition target) (sameState : left.state = right.state)
    (sameInput : left.cursor.peek? = right.cursor.peek?)
    (moveTo : ∀ state : StateId, configs
      ⟨state, transition.move left.cursor,
        transition.collect left.cursor.peek? left.pending, left.tokens⟩
      ⟨state, transition.move right.cursor,
        transition.collect right.cursor.peek? right.pending, right.tokens⟩)
    (emit : ∀ kind : κ, configs
      ⟨StateId.start, transition.move left.cursor, #[], left.tokens.push
        ⟨kind, (transition.collect left.cursor.peek? left.pending).toList⟩⟩
      ⟨StateId.start, transition.move right.cursor, #[], right.tokens.push
        ⟨kind, (transition.collect right.cursor.peek? right.pending).toList⟩⟩) :
    ∃ next, automaton.Takes left transition next ∧ configs next target := by
  obtain ⟨notDone, selected, leads⟩ := taken
  rw [← Config.isDone_alike sameState sameInput] at notDone
  rw [← sameState, ← sameInput] at selected
  rcases Config.next?_cases leads with ⟨state, decided, rfl⟩ | ⟨kind, decided, rfl⟩
  · exact ⟨_, ⟨notDone, selected, left.next?_of_moveTo decided⟩, moveTo state⟩
  · exact ⟨_, ⟨notDone, selected, left.next?_of_emit decided⟩, emit kind⟩

/-- Two configurations of one automaton step alike if they show it the same state and input, and if
changing the state and finishing a token keep them related. -/
theorem Automaton.step_alike (automaton : Automaton κ) {configs : Config κ → Config κ → Prop}
    {accepted : List (Token κ) → List (Token κ) → Prop} {rejected : Fault → Fault → Prop}
    (tokens : ∀ left right, configs left right →
      accepted left.tokens.toList right.tokens.toList)
    {left right : Config κ} (related : configs left right) (sameState : left.state = right.state)
    (sameInput : left.cursor.peek? = right.cursor.peek?)
    (faults : ∀ cause, rejected (left.fault cause) (right.fault cause))
    (moveTo : ∀ (transition : Transition κ) (state : StateId), configs
      ⟨state, transition.move left.cursor,
        transition.collect left.cursor.peek? left.pending, left.tokens⟩
      ⟨state, transition.move right.cursor,
        transition.collect right.cursor.peek? right.pending, right.tokens⟩)
    (emit : ∀ (transition : Transition κ) (kind : κ), configs
      ⟨StateId.start, transition.move left.cursor, #[], left.tokens.push
        ⟨kind, (transition.collect left.cursor.peek? left.pending).toList⟩⟩
      ⟨StateId.start, transition.move right.cursor, #[], right.tokens.push
        ⟨kind, (transition.collect right.cursor.peek? right.pending).toList⟩⟩) :
    Progress.Related configs accepted rejected (automaton.step left) (automaton.step right) := by
  have alikeDone := Config.isDone_alike sameState sameInput
  rcases automaton.step_cases right with
    ⟨done, step⟩ | ⟨transition, target, taken, step⟩ | ⟨notDone, cause, refused, step⟩
  · rw [step, automaton.step_of_isDone (alikeDone.trans done)]
    exact .finished (tokens left right related)
  · obtain ⟨next, leftTaken, nextRelated⟩ :=
      taken.alike sameState sameInput (moveTo transition) (emit transition)
    rw [step, leftTaken.step, Transition.consumesEnd_alike sameInput]
    exact Config.proceed_related _ nextRelated (tokens _ _ nextRelated)
  · rw [← sameState, ← sameInput] at refused
    rw [step, refused.step (alikeDone.trans notDone)]
    exact .failed (faults cause)

/-! ### Whole runs -/

/-- What each step keeps, the whole run keeps. -/
theorem Automaton.runFor_related {first : Automaton κ} {second : Automaton ι}
    {configs : Config κ → Config ι → Prop}
    {accepted : List (Token κ) → List (Token ι) → Prop} {rejected : Fault → Fault → Prop}
    (lockstep : ∀ left right, configs left right →
      Progress.Related configs accepted rejected (first.step left) (second.step right))
    (fuel : Nat) {left : Config κ} {right : Config ι} (related : configs left right) :
    Outcome.Related accepted rejected (first.runFor fuel left) (second.runFor fuel right) := by
  induction fuel generalizing left right with
  | zero => exact .divergent
  | succ fuel inductionHypothesis =>
      have stepped := lockstep left right related
      simp only [runFor]
      generalize first.step left = leftProgress at stepped
      generalize second.step right = rightProgress at stepped
      cases stepped with
      | running related => exact inductionHypothesis related
      | finished related => exact .accepted related
      | failed related => exact .rejected related

end LexKit

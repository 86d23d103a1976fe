import LexKit.Proofs.Scan.Cursor

/-!
Whole runs.

`Automaton.Run` is the semantic relation: it joins a configuration with the transitions that are
taken from it and with the outcome to which they lead.  `Automaton.runFor` is its bounded
counterpart: what it reports within its bound is a run, and every run is reported once the bound
exceeds its length.
-/

namespace LexKit

variable {κ : Type}

namespace Config

/-- The configuration behind a transition, unless the transition fails or is undecided. -/
def next? (config : Config κ) (transition : Transition κ) : Option (Config κ) :=
  match transition.disposition with
  | some (.moveTo state) => some ((config.consume transition).enter state)
  | some (.emit kind) => some ((config.consume transition).finish kind)
  | some (.fail _) => none
  | none => none

/-- A transition leads on either by changing the state or by finishing a token. -/
theorem next?_cases {config next : Config κ} {transition : Transition κ}
    (leads : config.next? transition = some next) :
    (∃ state, transition.disposition = some (.moveTo state) ∧
      next = ⟨state, transition.move config.cursor,
        transition.collect config.cursor.peek? config.pending, config.tokens⟩) ∨
    ∃ kind, transition.disposition = some (.emit kind) ∧
      next = ⟨StateId.start, transition.move config.cursor, #[], config.tokens.push
        ⟨kind, (transition.collect config.cursor.peek? config.pending).toList⟩⟩ := by
  unfold next? at leads
  split at leads
  next state decided =>
    cases leads
    exact .inl ⟨state, decided, rfl⟩
  next kind decided =>
    cases leads
    exact .inr ⟨kind, decided, rfl⟩
  next => simp at leads
  next => simp at leads

theorem next?_of_moveTo (config : Config κ) {transition : Transition κ} {state : StateId}
    (decided : transition.disposition = some (.moveTo state)) :
    config.next? transition = some ⟨state, transition.move config.cursor,
      transition.collect config.cursor.peek? config.pending, config.tokens⟩ := by
  simp [next?, decided, consume, enter]

theorem next?_of_emit (config : Config κ) {transition : Transition κ} {kind : κ}
    (decided : transition.disposition = some (.emit kind)) :
    config.next? transition = some ⟨StateId.start, transition.move config.cursor, #[],
      config.tokens.push
        ⟨kind, (transition.collect config.cursor.peek? config.pending).toList⟩⟩ := by
  simp [next?, decided, consume, finish]

theorem next?_eq_none_cases {config : Config κ} {transition : Transition κ}
    (stuck : config.next? transition = none) :
    (∃ message, transition.disposition = some (.fail message)) ∨
      transition.disposition = none := by
  unfold next? at stuck
  split at stuck
  next => simp at stuck
  next => simp at stuck
  next message decided => exact .inl ⟨message, decided⟩
  next undecided => exact .inr undecided

theorem cursor_next? {config next : Config κ} {transition : Transition κ}
    (leads : config.next? transition = some next) :
    next.cursor = transition.move config.cursor := by
  rcases next?_cases leads with ⟨state, _, rfl⟩ | ⟨kind, _, rfl⟩ <;> rfl

end Config

/-- One transition of a run, between the configurations in front of it and behind it. -/
structure Move (κ : Type) where
  source : Config κ
  transition : Transition κ
  target : Config κ
  deriving DecidableEq

namespace Move

def index (move : Move κ) : Nat :=
  move.source.cursor.index

def passes (move : Move κ) : Bool :=
  move.transition.passes move.source.cursor

def consumesEnd (move : Move κ) : Bool :=
  move.transition.consumesEnd move.source.cursor

def emits (move : Move κ) : Bool :=
  match move.transition.disposition with
  | some (.emit _) => true
  | _ => false

end Move

namespace Automaton

/-- The reasons for which a state can not deal with an input. -/
inductive Refuses (automaton : Automaton κ) (state : StateId) (input : Option Char) :
    FaultCause → Prop where
  | unmatched (unhandled : automaton.select? state input = none) :
      Refuses automaton state input (.unmatched input)
  | explicit {transition : Transition κ} {message : Text}
      (selected : automaton.select? state input = some transition)
      (fails : transition.disposition = some (.fail message)) :
      Refuses automaton state input (.explicit message)
  | undecided {transition : Transition κ}
      (selected : automaton.select? state input = some transition)
      (undecided : transition.disposition = none) :
      Refuses automaton state input .missingDestination

/-- The first transition that handles the input leads from one configuration to another. -/
structure Takes (automaton : Automaton κ) (source : Config κ) (transition : Transition κ)
    (target : Config κ) : Prop where
  notDone : source.isDone = false
  selected : automaton.select? source.state source.cursor.peek? = some transition
  leads : source.next? transition = some target

theorem step_of_isDone (automaton : Automaton κ) {config : Config κ}
    (done : config.isDone = true) :
    automaton.step config = .finished config.tokens.toList := by
  simp [step, done]

theorem Takes.step {automaton : Automaton κ} {source target : Config κ}
    {transition : Transition κ} (taken : automaton.Takes source transition target) :
    automaton.step source = target.proceed (transition.consumesEnd source.cursor) := by
  obtain ⟨notDone, selected, leads⟩ := taken
  simp only [Automaton.step, notDone, Bool.false_eq_true, ↓reduceIte, selected]
  unfold Config.next? at leads
  split at leads
  next state decided =>
    cases leads
    simp [Config.follow, decided, Transition.consumesEnd]
  next kind decided =>
    cases leads
    simp [Config.follow, decided, Transition.consumesEnd]
  next => simp at leads
  next => simp at leads

section

variable {automaton : Automaton κ} {text : Text} {config next : Config κ}
  {transition : Transition κ}

theorem Takes.index_eq (taken : automaton.Takes config transition next)
    (within : Cursor.Within text config.cursor) :
    next.cursor.index =
      if transition.passes config.cursor then config.cursor.index + 1
      else config.cursor.index := by
  rw [Config.cursor_next? taken.leads]
  cases passed : transition.passes config.cursor with
  | true => simp [Transition.move_of_passes within passed]
  | false => simp [Transition.move_of_not_passes passed]

theorem Takes.within (taken : automaton.Takes config transition next)
    (within : Cursor.Within text config.cursor) : Cursor.Within text next.cursor := by
  rw [Config.cursor_next? taken.leads]
  exact Transition.within_move within

theorem Takes.index_le (taken : automaton.Takes config transition next)
    (within : Cursor.Within text config.cursor) : config.cursor.index ≤ next.cursor.index := by
  rw [taken.index_eq within]
  split <;> omega

theorem Takes.atEnd_of_consumesEnd (taken : automaton.Takes config transition next)
    (ended : transition.consumesEnd config.cursor = true) : next.cursor.atEnd = true := by
  simp only [Transition.consumesEnd, Bool.and_eq_true] at ended
  have unmoved : transition.move config.cursor = config.cursor :=
    Transition.move_of_not_passes (by simp [Transition.passes, ended.1])
  rw [Config.cursor_next? taken.leads, unmoved]
  exact ended.1

end

theorem Refuses.step {automaton : Automaton κ} {config : Config κ} {cause : FaultCause}
    (refused : automaton.Refuses config.state config.cursor.peek? cause)
    (notDone : config.isDone = false) :
    automaton.step config = .failed (config.fault cause) := by
  cases refused with
  | unmatched unhandled => simp [Automaton.step, notDone, unhandled]
  | explicit selected fails => simp [Automaton.step, notDone, selected, Config.follow, fails]
  | undecided selected undecided =>
      simp [Automaton.step, notDone, selected, Config.follow, undecided]

/-- A step rests at a clean end, or takes a transition, or is refused. -/
theorem step_cases (automaton : Automaton κ) (config : Config κ) :
    (config.isDone = true ∧ automaton.step config = .finished config.tokens.toList) ∨
    (∃ transition next, automaton.Takes config transition next ∧
      automaton.step config = next.proceed (transition.consumesEnd config.cursor)) ∨
    (config.isDone = false ∧ ∃ cause,
      automaton.Refuses config.state config.cursor.peek? cause ∧
      automaton.step config = .failed (config.fault cause)) := by
  cases done : config.isDone with
  | true => exact .inl ⟨rfl, automaton.step_of_isDone done⟩
  | false =>
      have refusal {cause : FaultCause}
          (refused : automaton.Refuses config.state config.cursor.peek? cause) :=
        refused.step done
      cases selected : automaton.select? config.state config.cursor.peek? with
      | none => exact .inr (.inr ⟨rfl, _, .unmatched selected, refusal (.unmatched selected)⟩)
      | some transition =>
          cases leads : config.next? transition with
          | some next =>
              have taken : automaton.Takes config transition next := ⟨done, selected, leads⟩
              exact .inr (.inl ⟨transition, next, taken, taken.step⟩)
          | none =>
              rcases Config.next?_eq_none_cases leads with ⟨message, fails⟩ | undecided
              · exact .inr (.inr ⟨rfl, _, .explicit selected fails,
                  refusal (.explicit selected fails)⟩)
              · exact .inr (.inr ⟨rfl, _, .undecided selected undecided,
                  refusal (.undecided selected undecided)⟩)

/-- A run from a configuration: the transitions that it takes, and the outcome to which it comes. -/
inductive Run (automaton : Automaton κ) : Config κ → List (Move κ) → Outcome κ → Prop where
  /-- The run is over between tokens at the end of the text. -/
  | rest {config : Config κ} (done : config.isDone = true) :
      Run automaton config [] (.accepted config.tokens.toList)
  /-- The state can not deal with the input. -/
  | refuse {config : Config κ} {cause : FaultCause} (notDone : config.isDone = false)
      (refused : automaton.Refuses config.state config.cursor.peek? cause) :
      Run automaton config [] (.rejected (config.fault cause))
  /-- A transition consumes the end of the text. -/
  | close {config next : Config κ} {transition : Transition κ}
      (taken : automaton.Takes config transition next)
      (ended : transition.consumesEnd config.cursor = true) :
      Run automaton config [⟨config, transition, next⟩] (.accepted next.tokens.toList)
  /-- A transition is taken, and the run goes on behind it. -/
  | go {config next : Config κ} {transition : Transition κ} {moves : List (Move κ)}
      {outcome : Outcome κ} (taken : automaton.Takes config transition next)
      (running : transition.consumesEnd config.cursor = false)
      (later : Run automaton next moves outcome) :
      Run automaton config (⟨config, transition, next⟩ :: moves) outcome

section

variable {automaton : Automaton κ} {text : Text} {config : Config κ} {moves : List (Move κ)}
  {outcome : Outcome κ}

theorem Run.within (run : automaton.Run config moves outcome)
    (within : Cursor.Within text config.cursor) :
    ∀ move ∈ moves, Cursor.Within text move.target.cursor := by
  induction run with
  | rest => simp
  | refuse => simp
  | close taken ended =>
      intro move member
      obtain rfl := List.mem_singleton.mp member
      exact taken.within within
  | go taken running later inductionHypothesis =>
      intro move member
      rcases List.mem_cons.mp member with rfl | member
      · exact taken.within within
      · exact inductionHypothesis (taken.within within) move member

theorem Run.takes (run : automaton.Run config moves outcome) :
    ∀ move ∈ moves, automaton.Takes move.source move.transition move.target := by
  induction run with
  | rest => simp
  | refuse => simp
  | close taken ended =>
      intro move member
      obtain rfl := List.mem_singleton.mp member
      exact taken
  | go taken running later inductionHypothesis =>
      intro move member
      rcases List.mem_cons.mp member with rfl | member
      · exact taken
      · exact inductionHypothesis move member

/-- A run is reported by every bound above its length. -/
theorem Run.runFor_eq (run : automaton.Run config moves outcome) {fuel : Nat}
    (enough : moves.length < fuel) : automaton.runFor fuel config = outcome := by
  induction run generalizing fuel with
  | rest done =>
      obtain ⟨fuel, rfl⟩ := Nat.exists_eq_add_of_lt enough
      simp [runFor, automaton.step_of_isDone done]
  | refuse notDone refused =>
      obtain ⟨fuel, rfl⟩ := Nat.exists_eq_add_of_lt enough
      simp [runFor, refused.step notDone]
  | close taken ended =>
      obtain ⟨fuel, rfl⟩ := Nat.exists_eq_add_of_lt enough
      have step := taken.step
      simp only [ended, Config.proceed, ↓reduceIte] at step
      simp [runFor, step]
  | go taken running later inductionHypothesis =>
      obtain ⟨fuel, rfl⟩ := Nat.exists_eq_add_of_lt enough
      have step := taken.step
      simp only [running, Config.proceed, Bool.false_eq_true, ↓reduceIte] at step
      simp only [runFor, step]
      exact inductionHypothesis (by simp only [List.length_cons]; omega)

theorem Run.ne_divergent (run : automaton.Run config moves outcome) : outcome ≠ .divergent := by
  induction run with
  | rest => simp
  | refuse => simp
  | close => simp
  | go _ _ _ inductionHypothesis => exact inductionHypothesis

end

theorem exists_run_of_runFor {automaton : Automaton κ} {fuel : Nat} {config : Config κ}
    (ended : automaton.runFor fuel config ≠ .divergent) :
    ∃ moves, moves.length ≤ fuel ∧
      automaton.Run config moves (automaton.runFor fuel config) := by
  induction fuel generalizing config with
  | zero => exact absurd rfl ended
  | succ fuel inductionHypothesis =>
      rcases automaton.step_cases config with
        ⟨done, step⟩ | ⟨transition, next, taken, step⟩ | ⟨notDone, cause, refused, step⟩
      · simp only [runFor, step]
        exact ⟨[], by simp, .rest done⟩
      · cases consumed : transition.consumesEnd config.cursor with
        | true =>
            simp only [consumed, Config.proceed, ↓reduceIte] at step
            simp only [runFor, step]
            exact ⟨_, by simp, .close taken consumed⟩
        | false =>
            simp only [consumed, Config.proceed, Bool.false_eq_true, ↓reduceIte] at step
            simp only [runFor, step] at ended ⊢
            obtain ⟨moves, bounded, later⟩ := inductionHypothesis ended
            refine ⟨_, ?_, .go taken consumed later⟩
            exact Nat.succ_le_succ bounded
      · simp only [runFor, step]
        exact ⟨[], by simp, .refuse notDone refused⟩

theorem runFor_eq_of_le {automaton : Automaton κ} {fuel larger : Nat} {config : Config κ}
    (ended : automaton.runFor fuel config ≠ .divergent) (more : fuel ≤ larger) :
    automaton.runFor larger config = automaton.runFor fuel config := by
  obtain ⟨moves, bounded, run⟩ := exists_run_of_runFor ended
  rcases Nat.eq_or_lt_of_le more with same | more
  · rw [same]
  · exact run.runFor_eq (Nat.lt_of_le_of_lt bounded more)

end Automaton

end LexKit

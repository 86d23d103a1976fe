import LexKit.Proofs.Scan.Reading
import Mathlib.Logic.Relation

/-!
Only what is selected matters.

A run asks a state for one thing, namely what it does with an input, and it never asks the start
state about the end of the text, where it stops instead.  Two automata that answer alike to all
other questions can not be told apart by any text, however different their transitions are.  In
particular some edits of the transitions go unnoticed: those of the start state for the end of the
text, those of transitions behind others that handle the same inputs, and those that divide the
inputs of a transition among several.
-/

namespace LexKit

variable {κ : Type}

/-- A run goes the same way along two transitions that differ in their inputs only. -/
theorem Config.follow_congr {left right : Transition κ} (same : left.action = right.action)
    (config : Config κ) : config.follow left = config.follow right := by
  obtain ⟨leftOn, includes, rereads, disposition⟩ := left
  obtain ⟨rightOn, _, _, _⟩ := right
  simp only [Transition.action, Action.mk.injEq] at same
  obtain ⟨rfl, rfl, rfl⟩ := same
  rfl

namespace Automaton

/-- Two automata do the same with every character in every state, and with the end of the text in
every state but the start state. -/
structure ActsAlike (left right : Automaton κ) : Prop where
  size_eq : left.size = right.size
  on_char : ∀ id < left.size, ∀ c, left.action? id (some c) = right.action? id (some c)
  on_end : ∀ id < left.size, id ≠ StateId.start → left.action? id none = right.action? id none

/-- No text tells two automata apart: they come to the same outcome in the same round, or neither
comes to an end. -/
structure Indistinguishable (left right : Automaton κ) : Prop where
  tokenize_eq : ∀ text, left.tokenize text = right.tokenize text
  runsForever_iff : ∀ text, left.RunsForever text ↔ right.RunsForever text
  endsIn_iff : ∀ text round outcome,
    left.EndsIn text round outcome ↔ right.EndsIn text round outcome

variable {left right : Automaton κ}

/-! ### One step -/

theorem action?_of_size_le (automaton : Automaton κ) {id : StateId} (beyond : automaton.size ≤ id)
    (input : Option Char) : automaton.action? id input = none := by
  rw [action?, select?, automaton.state_of_size_le beyond]
  rfl

theorem ActsAlike.action?_eq (alike : left.ActsAlike right) {id : StateId} {input : Option Char}
    (asked : input = none → id ≠ StateId.start) :
    left.action? id input = right.action? id input := by
  rcases Nat.lt_or_ge id left.size with inside | beyond
  · cases input with
    | some c => exact alike.on_char id inside c
    | none => exact alike.on_end id inside (asked rfl)
  · rw [left.action?_of_size_le beyond, right.action?_of_size_le (alike.size_eq ▸ beyond)]

/-- A run that is not at its end never asks the start state about the end of the text. -/
theorem state_ne_start_of_isDone {config : Config κ} (notDone : config.isDone = false)
    (ended : config.cursor.peek? = none) : config.state ≠ StateId.start := by
  intro atStart
  rw [Cursor.peek?_eq_none_iff] at ended
  simp [Config.isDone, atStart, ended] at notDone

theorem step_congr {config : Config κ}
    (same : left.action? config.state config.cursor.peek? =
      right.action? config.state config.cursor.peek?) (notDone : config.isDone = false) :
    left.step config = right.step config := by
  simp only [step, notDone, Bool.false_eq_true, ↓reduceIte]
  simp only [action?] at same
  cases leftSelected : left.select? config.state config.cursor.peek? with
  | none =>
      rw [leftSelected, Option.map_none, eq_comm, Option.map_eq_none_iff] at same
      rw [same]
  | some transition =>
      -- The other transition may be another one, for other inputs, but it goes the same way.
      rw [leftSelected, Option.map_some, eq_comm, Option.map_eq_some_iff] at same
      obtain ⟨other, rightSelected, sameAction⟩ := same
      rw [rightSelected]
      exact config.follow_congr sameAction.symm

theorem ActsAlike.step_eq (alike : left.ActsAlike right) (config : Config κ) :
    left.step config = right.step config := by
  cases done : config.isDone with
  | true => rw [left.step_of_isDone done, right.step_of_isDone done]
  | false => exact step_congr (alike.action?_eq (state_ne_start_of_isDone done)) done

/-! ### Whole runs -/

theorem atRound?_congr (same : ∀ config, left.step config = right.step config) (round : Nat)
    (config : Config κ) : left.atRound? round config = right.atRound? round config := by
  induction round generalizing config with
  | zero => rfl
  | succ round inductionHypothesis => simp only [atRound?, same, inductionHypothesis]

theorem runFor_congr (same : ∀ config, left.step config = right.step config) (fuel : Nat)
    (config : Config κ) : left.runFor fuel config = right.runFor fuel config := by
  induction fuel generalizing config with
  | zero => rfl
  | succ fuel inductionHypothesis => simp only [runFor, same, inductionHypothesis]

theorem ActsAlike.indistinguishable (alike : left.ActsAlike right) :
    left.Indistinguishable right := by
  have sameRound := atRound?_congr alike.step_eq
  constructor
  · intro text
    rw [tokenize, tokenize, stepBound, stepBound, alike.size_eq]
    exact runFor_congr alike.step_eq _ _
  · intro text
    simp only [RunsForever, sameRound]
  · intro text round outcome
    simp only [EndsIn, sameRound, alike.step_eq]

/-! ### Edits that no run notices -/

theorem firstAction?_cons (transition : Transition κ) (later : State κ) (input : Option Char) :
    firstAction? (transition :: later) input =
      if transition.on.handles input then some transition.action
      else firstAction? later input := rfl

theorem firstAction?_append (front back : State κ) (input : Option Char) :
    firstAction? (front ++ back) input =
      (firstAction? front input).or (firstAction? back input) := by
  induction front with
  | nil => rfl
  | cons transition later inductionHypothesis =>
      rw [List.cons_append, firstAction?_cons, firstAction?_cons, inductionHypothesis]
      split_ifs <;> rfl

theorem exists_firstAction? {state : State κ} {input : Option Char}
    (handled : ∃ transition ∈ state, transition.on.handles input = true) :
    ∃ action, firstAction? state input = some action := by
  induction state with
  | nil => simp at handled
  | cons transition later inductionHypothesis =>
      rw [firstAction?_cons]
      split_ifs with first
      · exact ⟨_, rfl⟩
      · exact inductionHypothesis (by simpa [first] using handled)

theorem firstAction?_of_same {parts : State κ} {action : Action κ}
    (same : ∀ part ∈ parts, part.action = action) (input : Option Char) :
    firstAction? parts input =
      if parts.any (·.on.handles input) then some action else none := by
  induction parts with
  | nil => rfl
  | cons part later inductionHypothesis =>
      simp only [List.forall_mem_cons] at same
      rw [firstAction?_cons, same.1, inductionHypothesis same.2, List.any_cons]
      cases part.on.handles input <;> rfl

/-- An edit of the transitions of a state. -/
inductive Rewrites (id : StateId) : State κ → State κ → Prop where
  /-- The start state gets one more transition for the end of the text. -/
  | addEnd {front back : State κ} {transition : Transition κ} (atStart : id = StateId.start)
      (onEnd : transition.on = .endOfInput) :
      Rewrites id (front ++ back) (front ++ transition :: back)
  /-- A transition goes, each of whose inputs is handled by one in front of it. -/
  | dropShadowed {front back : State κ} {transition : Transition κ}
      (shadowed : ∀ input, transition.on.handles input = true →
        ∃ earlier ∈ front, earlier.on.handles input = true) :
      Rewrites id (front ++ transition :: back) (front ++ back)
  /-- A transition gives way to several that do the same and together handle the same characters,
  and the end of the text as well where that can be asked for. -/
  | divide {front back parts : State κ} {transition : Transition κ}
      (sameAction : ∀ part ∈ parts, part.action = transition.action)
      (sameChars : ∀ c, (∃ part ∈ parts, part.on.handles (some c) = true) ↔
        transition.on.handles (some c) = true)
      (sameEnd : id ≠ StateId.start →
        ((∃ part ∈ parts, part.on.handles none = true) ↔ transition.on.handles none = true)) :
      Rewrites id (front ++ transition :: back) (front ++ parts ++ back)

/-- An edit of one state of an automaton. -/
def Edits (old new : Automaton κ) : Prop :=
  ∃ id < old.size, ∃ state, Rewrites id (old.state id) state ∧
    new = old.modifyState id fun _ => state

theorem Rewrites.firstAction?_eq {id : StateId} {old new : State κ} {input : Option Char}
    (edit : Rewrites id old new) (asked : input = none → id ≠ StateId.start) :
    firstAction? old input = firstAction? new input := by
  cases edit with
  | @addEnd front back transition atStart onEnd =>
      have idle : transition.on.handles input = false := by
        cases input with
        | none => exact absurd atStart (asked rfl)
        | some c => rw [onEnd]; rfl
      rw [firstAction?_append, firstAction?_append, firstAction?_cons, idle]
      rfl
  | @dropShadowed front back transition shadowed =>
      rw [firstAction?_append, firstAction?_append, firstAction?_cons]
      cases handled : transition.on.handles input with
      | false => rfl
      | true =>
          obtain ⟨action, found⟩ := exists_firstAction? (shadowed input handled)
          rw [found, Option.some_or, Option.some_or]
  | @divide front back parts transition sameAction sameChars sameEnd =>
      have covered : parts.any (·.on.handles input) = transition.on.handles input := by
        rw [Bool.eq_iff_iff, List.any_eq_true]
        cases input with
        | none => exact sameEnd (asked rfl)
        | some c => exact sameChars c
      rw [List.append_assoc, firstAction?_append, firstAction?_append, firstAction?_append,
        firstAction?_cons, firstAction?_of_same sameAction, covered]
      cases transition.on.handles input <;> rfl

namespace ActsAlike

theorem of_action?_eq (sameSize : left.size = right.size)
    (same : ∀ id input, (input = none → id ≠ StateId.start) →
      left.action? id input = right.action? id input) : left.ActsAlike right where
  size_eq := sameSize
  on_char id _ c := same id (some c) (by simp)
  on_end id _ other := same id none fun _ => other

theorem refl (automaton : Automaton κ) : automaton.ActsAlike automaton :=
  of_action?_eq rfl fun _ _ _ => rfl

theorem symm (alike : left.ActsAlike right) : right.ActsAlike left :=
  of_action?_eq alike.size_eq.symm fun _ _ asked => (alike.action?_eq asked).symm

theorem trans {middle : Automaton κ} (first : left.ActsAlike middle)
    (second : middle.ActsAlike right) : left.ActsAlike right :=
  of_action?_eq (first.size_eq.trans second.size_eq) fun _ _ asked =>
    (first.action?_eq asked).trans (second.action?_eq asked)

end ActsAlike

theorem Edits.actsAlike (edited : left.Edits right) : left.ActsAlike right := by
  obtain ⟨id, inside, state, edit, rfl⟩ := edited
  apply ActsAlike.of_action?_eq (left.size_modifyState id _).symm
  intro other input asked
  rw [action?_eq_firstAction?, action?_eq_firstAction?]
  by_cases same : id = other
  · subst same
    rw [left.state_modifyState_same inside]
    exact edit.firstAction?_eq asked
  · rw [left.state_modifyState_of_ne same]

theorem actsAlike_of_eqvGen (edited : Relation.EqvGen Edits left right) :
    left.ActsAlike right := by
  induction edited with
  | rel left right edit => exact edit.actsAlike
  | refl automaton => exact .refl automaton
  | symm left right _ inductionHypothesis => exact inductionHypothesis.symm
  | trans left middle right _ _ first second => exact first.trans second

end Automaton

/-- Automata whose states act alike on all that a run can ask them can not be told apart by any
text.  Nor can automata that differ by any number of edits that add, drop or change transitions of
the start state for the end of the text, drop or add shadowed transitions, or divide or join
transitions. -/
theorem tokenize_determined_by_selection (left right : Automaton κ) :
    (left.ActsAlike right → left.Indistinguishable right) ∧
      (Relation.EqvGen Automaton.Edits left right → left.Indistinguishable right) := by
  constructor
  · exact Automaton.ActsAlike.indistinguishable
  · intro edited
    exact (Automaton.actsAlike_of_eqvGen edited).indistinguishable

/-- Words of letters. -/
def letterWords : List (Call Nat) :=
  [.on 0 .letter, .moveToNew 0, .on 1 .letter, .stay 1, .on 1 .any, .rewind 2, .emit 2 7]

/-- Words of letters, in which small and capital letters begin a word along transitions of their
own, and two failures can not happen: one at the end of the text and one behind all letters. -/
def recastWords : List (Call Nat) :=
  [.on 0 .lowerLetter, .moveToNew 0, .on 0 .upperLetter, .moveTo 1 1, .on 0 .endOfInput,
    .fail 2 "empty".toList, .on 1 .letter, .stay 3, .on 1 .lowerLetter, .fail 4 "small".toList,
    .on 1 .any, .rewind 5, .emit 5 7]

def intoWord (on : CharClass) : Transition Nat := { on, disposition := some (.moveTo 1) }

def failsAtEnd : Transition Nat :=
  { on := .endOfInput, disposition := some (.fail "empty".toList) }

def failsAtSmall : Transition Nat :=
  { on := .lowerLetter, disposition := some (.fail "small".toList) }

/-- How words begin, small and capital letters apart. -/
def wordStart : State Nat := [intoWord .lowerLetter, intoWord .upperLetter]

/-- How words go on. -/
def wordRest : State Nat := [intoWord .letter, ⟨.any, false, true, some (.emit 7)⟩]

theorem divides_letters : Automaton.Rewrites StateId.start [intoWord .letter] wordStart := by
  apply @Automaton.Rewrites.divide Nat StateId.start [] [] wordStart (intoWord .letter)
  · simp [wordStart, intoWord, Transition.action]
  · simp [wordStart, intoWord, CharClass.handles, CharClass.holds]
  · simp

theorem drops_failsAtSmall : Automaton.Rewrites 1
    (intoWord .letter :: failsAtSmall :: wordRest.tail) wordRest := by
  apply @Automaton.Rewrites.dropShadowed Nat 1 [intoWord .letter] wordRest.tail failsAtSmall
  rintro (_ | c) handled
  · simp [failsAtSmall, CharClass.handles, CharClass.holdsEnd] at handled
  · refine ⟨intoWord .letter, by simp, ?_⟩
    simp_all [failsAtSmall, intoWord, CharClass.handles, CharClass.holds]

theorem edited_recastWords : Relation.EqvGen Automaton.Edits (Call.automaton letterWords)
    (Call.automaton recastWords) := by
  have divided : (Call.automaton letterWords).Edits ⟨[wordStart, wordRest]⟩ :=
    ⟨0, by decide, _, divides_letters, rfl⟩
  have ended : Automaton.Edits ⟨[wordStart, wordRest]⟩ ⟨[wordStart ++ [failsAtEnd], wordRest]⟩ :=
    ⟨0, by decide, _, @Automaton.Rewrites.addEnd Nat StateId.start wordStart [] failsAtEnd rfl rfl,
      rfl⟩
  have dropped : (Call.automaton recastWords).Edits ⟨[wordStart ++ [failsAtEnd], wordRest]⟩ :=
    ⟨1, by decide, _, drops_failsAtSmall, rfl⟩
  exact .trans _ _ _ (.rel _ _ divided)
    (.trans _ _ _ (.rel _ _ ended) (.symm _ _ (.rel _ _ dropped)))

theorem recastWords_indistinguishable :
    (Call.automaton letterWords).ActsAlike (Call.automaton recastWords) ∧
      Relation.EqvGen Automaton.Edits (Call.automaton letterWords) (Call.automaton recastWords) ∧
      (Call.automaton letterWords).states ≠ (Call.automaton recastWords).states ∧
      (Call.automaton recastWords).tokenize "aB".toList = .accepted [⟨7, "aB".toList⟩] ∧
      (Call.automaton recastWords).tokenize "aB1".toList =
        .rejected ⟨.unmatched (some '1'), ⟨1, 2⟩, 2, 0⟩ ∧
      (Call.automaton recastWords).tokenize [] = .accepted [] := by
  have alike := Automaton.actsAlike_of_eqvGen edited_recastWords
  obtain ⟨byActions, byEdits⟩ :=
    tokenize_determined_by_selection (Call.automaton letterWords) (Call.automaton recastWords)
  refine ⟨alike, edited_recastWords, by decide, ?_, ?_, ?_⟩
  · rw [← (byActions alike).tokenize_eq]
    decide
  · rw [← (byEdits edited_recastWords).tokenize_eq]
    decide
  · rw [← (byEdits edited_recastWords).tokenize_eq]
    rfl

end LexKit

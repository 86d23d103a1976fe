import LexKit.Proofs.Scan.Bound

/-!
No look-ahead.

A run sees nothing of a text but the input at its place.  Over two texts with a common front it does
the same on both as long as it stands inside the front, wherever the texts end and whatever they
hold behind it: it takes the same transitions, finishes the same tokens and finds the same fault.
-/

namespace LexKit

variable {κ : Type}

/-! ### The moves of a run, round by round -/

/-- The token that a move finishes. -/
def Move.token? (move : Move κ) : Option (Token κ) :=
  match move.transition.disposition with
  | some (.emit kind) => some
      ⟨kind, (move.transition.collect move.source.cursor.peek? move.source.pending).toList⟩
  | _ => none

namespace Automaton

/-- The move that a run makes from a configuration, unless it rests or is refused there. -/
def move? (automaton : Automaton κ) (config : Config κ) : Option (Move κ) :=
  if config.isDone then none
  else
    (automaton.select? config.state config.cursor.peek?).bind fun transition =>
      (config.next? transition).map fun next => ⟨config, transition, next⟩

/-- The moves that a run makes in its first rounds, whether it ends within them or not. -/
def movesIn (automaton : Automaton κ) : Nat → Config κ → List (Move κ)
  | 0, _ => []
  | rounds + 1, config =>
      match automaton.move? config with
      | none => []
      | some move =>
          move :: if move.consumesEnd then [] else automaton.movesIn rounds move.target

/-- The tokens that the run over a text finishes in its first rounds. -/
def emitted (automaton : Automaton κ) (rounds : Nat) (text : Text) : List (Token κ) :=
  (automaton.movesIn rounds (.initial text)).filterMap Move.token?

/-- Those of them that are finished by transitions taken in front of a place. -/
def emittedBefore (automaton : Automaton κ) (place rounds : Nat) (text : Text) :
    List (Token κ) :=
  ((automaton.movesIn rounds (.initial text)).filter (·.index < place)).filterMap Move.token?

variable {automaton : Automaton κ} {text : Text} {config next : Config κ}
  {transition : Transition κ} {moves : List (Move κ)} {outcome : Outcome κ} {rounds : Nat}

theorem Takes.move?_eq (taken : automaton.Takes config transition next) :
    automaton.move? config = some ⟨config, transition, next⟩ := by
  simp [move?, taken.notDone, taken.selected, taken.leads]

theorem exists_takes_of_move? {move : Move κ} (made : automaton.move? config = some move) :
    ∃ transition next, automaton.Takes config transition next ∧
      move = ⟨config, transition, next⟩ := by
  unfold move? at made
  split at made
  next => simp at made
  next notDone =>
    obtain ⟨transition, selected, moved⟩ := Option.bind_eq_some_iff.mp made
    obtain ⟨next, leads, rfl⟩ := Option.map_eq_some_iff.mp moved
    exact ⟨transition, next, ⟨by simpa using notDone, selected, leads⟩, rfl⟩

theorem move?_of_isDone (done : config.isDone = true) : automaton.move? config = none := by
  simp [move?, done]

theorem Refuses.move?_eq {cause : FaultCause}
    (refused : automaton.Refuses config.state config.cursor.peek? cause) :
    automaton.move? config = none := by
  cases refused with
  | unmatched unhandled => simp [move?, unhandled]
  | explicit selected fails => simp [move?, selected, Config.next?, fails]
  | undecided selected undecided => simp [move?, selected, Config.next?, undecided]

theorem Takes.movesIn_succ (taken : automaton.Takes config transition next)
    (running : transition.consumesEnd config.cursor = false) (rounds : Nat) :
    automaton.movesIn (rounds + 1) config =
      ⟨config, transition, next⟩ :: automaton.movesIn rounds next := by
  simp [movesIn, taken.move?_eq, Move.consumesEnd, running]

/-- The moves of the first rounds are the first moves of the run. -/
theorem Run.movesIn_eq (run : automaton.Run config moves outcome) (rounds : Nat) :
    automaton.movesIn rounds config = moves.take rounds := by
  induction run generalizing rounds with
  | rest done => cases rounds <;> simp [movesIn, move?_of_isDone done]
  | refuse notDone refused => cases rounds <;> simp [movesIn, refused.move?_eq]
  | close taken ended =>
      cases rounds with
      | zero => rfl
      | succ rounds => simp [movesIn, taken.move?_eq, Move.consumesEnd, ended]
  | go taken running later inductionHypothesis =>
      cases rounds with
      | zero => rfl
      | succ rounds =>
          rw [taken.movesIn_succ running, inductionHypothesis, List.take_succ_cons]

theorem Takes.tokens_eq (taken : automaton.Takes config transition next) :
    next.tokens.toList =
      config.tokens.toList ++ (Move.token? ⟨config, transition, next⟩).toList := by
  rcases Config.next?_cases taken.leads with ⟨state, decided, rfl⟩ | ⟨kind, decided, rfl⟩
  · simp [Move.token?, decided]
  · simp [Move.token?, decided]

theorem Run.tokens_eq {tokens : List (Token κ)}
    (run : automaton.Run config moves (.accepted tokens)) :
    tokens = config.tokens.toList ++ moves.filterMap Move.token? := by
  generalize accepted : Outcome.accepted tokens = outcome at run
  induction run with
  | rest done =>
      cases accepted
      simp
  | refuse => simp at accepted
  | @close config next transition taken ended =>
      cases accepted
      rw [taken.tokens_eq]
      cases token : Move.token? ⟨config, transition, next⟩ <;> simp [token]
  | @go config next transition moves outcome taken running later inductionHypothesis =>
      rw [inductionHypothesis accepted, taken.tokens_eq, List.append_assoc]
      cases token : Move.token? ⟨config, transition, next⟩ <;> simp [token]

theorem exists_moves_of_tokenize {tokens : List (Token κ)}
    (accepted : automaton.tokenize text = .accepted tokens) :
    ∃ moves : List (Move κ), moves.length ≤ automaton.stepBound text ∧
      tokens = moves.filterMap Move.token? ∧
      ∀ rounds, automaton.emitted rounds text = (moves.take rounds).filterMap Move.token? := by
  have ended : automaton.tokenize text ≠ .divergent := by simp [accepted]
  obtain ⟨moves, bounded, run⟩ := exists_run_of_runFor ended
  rw [← tokenize, accepted] at run
  refine ⟨moves, bounded, run.tokens_eq, ?_⟩
  intro rounds
  rw [emitted, run.movesIn_eq]

/-- What is emitted over a text is in the end what the text is accepted with. -/
theorem emitted_eq_of_tokenize {tokens : List (Token κ)}
    (accepted : automaton.tokenize text = .accepted tokens)
    (enough : automaton.stepBound text ≤ rounds) : automaton.emitted rounds text = tokens := by
  obtain ⟨moves, bounded, all, emitted⟩ := exists_moves_of_tokenize accepted
  rw [emitted, all, List.take_of_length_le (Nat.le_trans bounded enough)]

theorem emitted_le_of_tokenize {tokens : List (Token κ)}
    (accepted : automaton.tokenize text = .accepted tokens) (rounds : Nat) :
    automaton.emitted rounds text <+: tokens := by
  obtain ⟨moves, _, all, emitted⟩ := exists_moves_of_tokenize accepted
  rw [emitted, all]
  exact (List.take_prefix rounds moves).filterMap Move.token?

/-! ### Moving forward -/

theorem index_le_of_mem_movesIn (within : Cursor.Within text config.cursor) {move : Move κ}
    (member : move ∈ automaton.movesIn rounds config) : config.cursor.index ≤ move.index := by
  induction rounds generalizing config with
  | zero => simp [movesIn] at member
  | succ rounds inductionHypothesis =>
      unfold movesIn at member
      split at member
      next => simp at member
      next first made =>
        obtain ⟨transition, next, taken, rfl⟩ := exists_takes_of_move? made
        rcases List.mem_cons.mp member with rfl | member
        · exact Nat.le_refl _
        · split at member
          next => simp at member
          next =>
            exact Nat.le_trans (taken.index_le within)
              (inductionHypothesis (taken.within within) member)

/-- No move counts any more once the run is behind a place. -/
theorem filter_movesIn_of_le {place : Nat} (within : Cursor.Within text config.cursor)
    (behind : place ≤ config.cursor.index) (rounds : Nat) :
    (automaton.movesIn rounds config).filter (·.index < place) = [] := by
  rw [List.filter_eq_nil_iff]
  intro move member
  have forward := index_le_of_mem_movesIn within member
  simp only [decide_eq_true_eq]
  omega

theorem Run.index_le_offset {fault : Fault} (run : automaton.Run config moves (.rejected fault))
    (within : Cursor.Within text config.cursor) : config.cursor.index ≤ fault.offset := by
  generalize rejected : Outcome.rejected fault = outcome at run
  induction run with
  | rest => simp at rejected
  | refuse notDone refused =>
      obtain rfl := Outcome.rejected.inj rejected
      exact Nat.le_refl _
  | close => simp at rejected
  | go taken running later inductionHypothesis =>
      exact Nat.le_trans (taken.index_le within)
        (inductionHypothesis (taken.within within) rejected)

end Automaton

/-! ### A common front -/

/-- Two runs over texts with a common front that are at the same place, not behind the front, and
have done the same so far. -/
structure SideBySide (front ends others : Text) (left right : Config κ) : Prop where
  state : left.state = right.state
  pending : left.pending = right.pending
  tokens : left.tokens = right.tokens
  place : ∃ index ≤ front.length,
    left.cursor = .after (front ++ ends) index ∧ right.cursor = .after (front ++ others) index

namespace SideBySide

variable {front ends others : Text} {left right next : Config κ} {automaton : Automaton κ}
  {transition : Transition κ}

theorem initial (front ends others : Text) :
    SideBySide front ends others (.initial (front ++ ends) : Config κ)
      (.initial (front ++ others)) :=
  ⟨rfl, rfl, rfl, 0, Nat.zero_le _, rfl, rfl⟩

theorem within (beside : SideBySide front ends others left right) :
    Cursor.Within (front ++ ends) left.cursor := by
  obtain ⟨index, bounded, leftPlace, _⟩ := beside.place
  rw [leftPlace]
  apply Cursor.Within.of_after
  rw [List.length_append]
  exact Nat.le_add_right_of_le bounded

theorem peek?_eq (beside : SideBySide front ends others left right)
    (before : left.cursor.index < front.length) : left.cursor.peek? = right.cursor.peek? := by
  obtain ⟨index, _, leftPlace, rightPlace⟩ := beside.place
  rw [leftPlace, Cursor.index_after] at before
  rw [leftPlace, rightPlace, Cursor.peek?_after, Cursor.peek?_after,
    List.getElem?_append_left before, List.getElem?_append_left before]

theorem atEnd_eq_false (beside : SideBySide front ends others left right)
    (before : left.cursor.index < front.length) : left.cursor.atEnd = false := by
  rw [Bool.eq_false_iff, Ne, beside.within.atEnd_iff, List.length_append]
  omega

theorem fault_eq (beside : SideBySide front ends others left right) (cause : FaultCause) :
    left.fault cause = right.fault cause := by
  obtain ⟨index, bounded, leftPlace, rightPlace⟩ := beside.place
  simp only [Config.fault, beside.state, leftPlace, rightPlace, Cursor.pos_after,
    Cursor.index_after, List.take_append_of_le_length bounded]

theorem move (beside : SideBySide front ends others left right)
    (before : left.cursor.index < front.length) (transition : Transition κ) :
    ∃ index ≤ front.length, transition.move left.cursor = .after (front ++ ends) index ∧
      transition.move right.cursor = .after (front ++ others) index := by
  obtain ⟨index, bounded, leftPlace, rightPlace⟩ := beside.place
  rw [leftPlace, Cursor.index_after] at before
  rw [leftPlace, rightPlace]
  cases reread : transition.rereads with
  | true =>
      refine ⟨index, bounded, ?_, ?_⟩
      · simp [Transition.move, reread]
      · simp [Transition.move, reread]
  | false =>
      have leftInside : index < (front ++ ends).length := by rw [List.length_append]; omega
      have rightInside : index < (front ++ others).length := by rw [List.length_append]; omega
      refine ⟨index + 1, before, ?_, ?_⟩
      · simp [Transition.move, reread, Cursor.step_after leftInside]
      · simp [Transition.move, reread, Cursor.step_after rightInside]

/-- Inside the front, a transition that one run takes is taken by the other. -/
theorem takes (beside : SideBySide front ends others left right)
    (before : left.cursor.index < front.length)
    (taken : automaton.Takes left transition next) :
    ∃ other, automaton.Takes right transition other ∧ SideBySide front ends others next other := by
  have sameInput := beside.peek?_eq before
  apply taken.alike beside.state.symm sameInput.symm
  · intro state
    refine ⟨rfl, ?_, beside.tokens, beside.move before transition⟩
    rw [sameInput, beside.pending]
  · intro kind
    refine ⟨rfl, rfl, ?_, beside.move before transition⟩
    rw [sameInput, beside.pending, beside.tokens]

/-- Inside the front, no run ends well. -/
theorem consumesEnd_eq_false (beside : SideBySide front ends others left right)
    (before : left.cursor.index < front.length) (transition : Transition κ) :
    transition.consumesEnd left.cursor = false ∧ transition.consumesEnd right.cursor = false := by
  have running : transition.consumesEnd left.cursor = false := by
    simp [Transition.consumesEnd, beside.atEnd_eq_false before]
  refine ⟨running, ?_⟩
  rw [← Transition.consumesEnd_alike (beside.peek?_eq before), running]

theorem token?_eq (beside : SideBySide front ends others left right)
    (before : left.cursor.index < front.length) (transition : Transition κ)
    (target other : Config κ) :
    Move.token? ⟨left, transition, target⟩ = Move.token? ⟨right, transition, other⟩ := by
  simp only [Move.token?, beside.peek?_eq before, beside.pending]

/-! ### Whole runs -/

theorem emitted (beside : SideBySide front ends others left right) (rounds : Nat) :
    ((automaton.movesIn rounds left).filter (·.index < front.length)).filterMap Move.token? <+:
      (automaton.movesIn rounds right).filterMap Move.token? := by
  induction rounds generalizing left right with
  | zero => exact List.prefix_rfl
  | succ rounds inductionHypothesis =>
      by_cases before : left.cursor.index < front.length
      · cases made : automaton.move? left with
        | none =>
            simp only [Automaton.movesIn, made]
            exact ⟨_, rfl⟩
        | some move =>
            obtain ⟨transition, next, taken, rfl⟩ := Automaton.exists_takes_of_move? made
            obtain ⟨other, otherTaken, behind⟩ := beside.takes before taken
            obtain ⟨running, otherRunning⟩ := beside.consumesEnd_eq_false before transition
            have sameToken := beside.token?_eq before transition next other
            have later := inductionHypothesis behind
            rw [taken.movesIn_succ running, otherTaken.movesIn_succ otherRunning,
              List.filter_cons_of_pos (by exact decide_eq_true before)]
            cases token : Move.token? ⟨right, transition, other⟩ with
            | none => simpa [sameToken, token] using later
            | some value => simpa [sameToken, token] using later
      · rw [Automaton.filter_movesIn_of_le beside.within (Nat.le_of_not_lt before)]
        exact ⟨_, rfl⟩

theorem exists_run_of_rejected {moves : List (Move κ)} {fault : Fault}
    (run : automaton.Run left moves (.rejected fault))
    (beside : SideBySide front ends others left right) (early : fault.offset < front.length) :
    ∃ otherMoves, automaton.Run right otherMoves (.rejected fault) := by
  generalize rejected : Outcome.rejected fault = outcome at run
  induction run generalizing right with
  | rest => simp at rejected
  | @refuse left cause notDone refused =>
      obtain rfl := Outcome.rejected.inj rejected
      have before : left.cursor.index < front.length := early
      have sameInput := beside.peek?_eq before
      rw [beside.state, sameInput] at refused
      rw [beside.fault_eq cause]
      exact ⟨[], .refuse (Config.isDone_alike beside.state sameInput ▸ notDone) refused⟩
  | close => simp at rejected
  | @go left next transition moves outcome taken running later inductionHypothesis =>
      have before : left.cursor.index < front.length := by
        have forward := taken.index_le beside.within
        have bounded := (rejected ▸ later).index_le_offset (taken.within beside.within)
        omega
      obtain ⟨other, otherTaken, behind⟩ := beside.takes before taken
      obtain ⟨otherMoves, otherRun⟩ := inductionHypothesis behind rejected
      exact ⟨_, .go otherTaken (beside.consumesEnd_eq_false before transition).2 otherRun⟩

end SideBySide

/-- Over two texts with a common front, a drawn automaton finds the same fault inside the front.
The tokens that it finishes by transitions taken inside the front of one text are the first ones
that it finishes over the other, in any number of rounds, and the first ones with which the other
is accepted, if it is. -/
theorem tokenize_agrees_on_front (calls : List (Call κ)) (front ends others : Text) :
    (∀ fault, (Call.automaton calls).tokenize (front ++ ends) = .rejected fault →
      fault.offset < front.length →
      (Call.automaton calls).tokenize (front ++ others) = .rejected fault) ∧
    (∀ rounds, (Call.automaton calls).emittedBefore front.length rounds (front ++ ends) <+:
      (Call.automaton calls).emitted rounds (front ++ others)) ∧
    ∀ tokens, (Call.automaton calls).tokenize (front ++ others) = .accepted tokens →
      (∀ rounds ≥ (Call.automaton calls).stepBound (front ++ others),
        (Call.automaton calls).emitted rounds (front ++ others) = tokens) ∧
      ∀ rounds, (Call.automaton calls).emittedBefore front.length rounds (front ++ ends) <+:
        tokens := by
  have beside : SideBySide front ends others (.initial (front ++ ends) : Config κ)
    (.initial (front ++ others)) := .initial front ends others
  refine ⟨?_, beside.emitted, ?_⟩
  · intro fault rejected early
    have ended : (Call.automaton calls).tokenize (front ++ ends) ≠ .divergent := by
      simp [rejected]
    obtain ⟨moves, run⟩ := Automaton.exists_run_of_tokenize ended
    rw [rejected] at run
    obtain ⟨otherMoves, otherRun⟩ := beside.exists_run_of_rejected run early
    exact otherRun.tokenize_eq (Call.automaton_wellFormed calls)
  · intro tokens accepted
    refine ⟨?_, ?_⟩
    · intro rounds enough
      exact Automaton.emitted_eq_of_tokenize accepted enough
    · intro rounds
      exact (beside.emitted rounds).trans (Automaton.emitted_le_of_tokenize accepted rounds)

/-- Numbers with blanks between them, which are left out. -/
def spacedNumbers : List (Call Nat) :=
  [.on 0 .digit, .moveToNew 0, .on 1 .digit, .stay 1, .on 1 .any, .rewind 2, .emit 2 7,
    .on 0 (.oneOf [' ']), .ignore 3, .stay 3]

theorem spacedNumbers_agree_on_front :
    (Call.automaton spacedNumbers).tokenize ("1?2".toList ++ "3".toList) =
        .rejected ⟨.unmatched (some '?'), ⟨1, 1⟩, 1, 0⟩ ∧
      (Call.automaton spacedNumbers).tokenize ("1?2".toList ++ []) =
        .rejected ⟨.unmatched (some '?'), ⟨1, 1⟩, 1, 0⟩ ∧
      (Call.automaton spacedNumbers).emittedBefore 4 9 ("12 3".toList ++ "4?".toList) =
        [⟨7, "12".toList⟩] ∧
      (Call.automaton spacedNumbers).tokenize ("12 3".toList ++ []) =
        .accepted [⟨7, "12".toList⟩, ⟨7, "3".toList⟩] ∧
      (Call.automaton spacedNumbers).emittedBefore 4 9 ("12 3".toList ++ "4?".toList) <+:
        [⟨7, "12".toList⟩, ⟨7, "3".toList⟩] := by
  have rejected : (Call.automaton spacedNumbers).tokenize ("1?2".toList ++ "3".toList) =
      .rejected ⟨.unmatched (some '?'), ⟨1, 1⟩, 1, 0⟩ := by decide
  have accepted : (Call.automaton spacedNumbers).tokenize ("12 3".toList ++ []) =
      .accepted [⟨7, "12".toList⟩, ⟨7, "3".toList⟩] := by decide
  obtain ⟨faults, _⟩ :=
    tokenize_agrees_on_front spacedNumbers "1?2".toList "3".toList []
  obtain ⟨_, _, tokens⟩ :=
    tokenize_agrees_on_front spacedNumbers "12 3".toList "4?".toList []
  exact ⟨rejected, faults _ rejected (by decide), by decide, accepted, (tokens _ accepted).2 9⟩

end LexKit

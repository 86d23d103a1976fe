import LexKit.Proofs.Scan.Bound

/-!
The start state is a clean slate.

Behind a token that has just been finished, a run goes on as if the text began there: nothing but
the finished tokens and the counts of the cursor is carried over.  So the rest of a text divides
into the rest of the tokens, and a fault in the rest is the same fault at a shifted place.
-/

namespace LexKit

variable {κ : Type}

/-- A run over a whole text is at the same place as a run that began behind its first `passed`
characters, when the given tokens were finished. -/
structure Resumes (text : Text) (passed : Nat) (tokens : List (Token κ))
    (whole part : Config κ) : Prop where
  state : whole.state = part.state
  pending : whole.pending = part.pending
  tokens : whole.tokens.toList = tokens ++ part.tokens.toList
  within : Cursor.Within (text.drop passed) part.cursor
  place : whole.cursor = .after text (passed + part.cursor.index)

/-- The same fault, found in the whole text and in its part behind the first `passed` characters. -/
structure SameFault (text : Text) (passed : Nat) (whole part : Fault) : Prop where
  cause : part.cause = whole.cause
  state : part.state = whole.state
  offset : part.offset + passed = whole.offset
  pos : whole.pos = (SourcePos.origin.visitAll (text.take passed)).visitAll
    ((text.take whole.offset).drop passed)

namespace Resumes

variable {text : Text} {passed : Nat} {tokens : List (Token κ)} {whole part : Config κ}

theorem peek?_eq (resumes : Resumes text passed tokens whole part) :
    whole.cursor.peek? = part.cursor.peek? := by
  rw [resumes.place, Cursor.peek?_after, resumes.within.peek?, List.getElem?_drop]

theorem atEnd_eq (resumes : Resumes text passed tokens whole part) :
    whole.cursor.atEnd = part.cursor.atEnd :=
  Cursor.atEnd_alike resumes.peek?_eq

theorem move_eq (resumes : Resumes text passed tokens whole part) (transition : Transition κ) :
    transition.move whole.cursor =
      .after text (passed + (transition.move part.cursor).index) := by
  have sameEnd := resumes.atEnd_eq
  have alike : transition.passes whole.cursor = transition.passes part.cursor := by
    rw [Transition.passes, Transition.passes, sameEnd]
  cases passes : transition.passes part.cursor with
  | false =>
      rw [Transition.move_of_not_passes passes, Transition.move_of_not_passes (alike.trans passes)]
      exact resumes.place
  | true =>
      have inside : passed + part.cursor.index < text.length := by
        have before : whole.cursor.atEnd = false := by
          have wholePasses := alike.trans passes
          simp only [Transition.passes, Bool.and_eq_true, Bool.not_eq_true'] at wholePasses
          exact wholePasses.2
        rw [resumes.place] at before
        apply Nat.lt_of_not_le
        intro ended
        simp [(Cursor.atEnd_after_iff _ _).mpr ended] at before
      have wholeWithin : Cursor.Within text whole.cursor := by
        rw [resumes.place]
        exact .of_after (Nat.le_of_lt inside)
      rw [Transition.move_of_passes resumes.within passes,
        Transition.move_of_passes wholeWithin (alike.trans passes), resumes.place]
      rfl

theorem moveTo (resumes : Resumes text passed tokens whole part) (transition : Transition κ)
    (state : StateId) :
    Resumes text passed tokens
      ⟨state, transition.move whole.cursor,
        transition.collect whole.cursor.peek? whole.pending, whole.tokens⟩
      ⟨state, transition.move part.cursor,
        transition.collect part.cursor.peek? part.pending, part.tokens⟩ where
  state := rfl
  pending := by rw [resumes.peek?_eq, resumes.pending]
  tokens := resumes.tokens
  within := Transition.within_move resumes.within
  place := resumes.move_eq transition

theorem emit (resumes : Resumes text passed tokens whole part) (transition : Transition κ)
    (kind : κ) :
    Resumes text passed tokens
      ⟨StateId.start, transition.move whole.cursor, #[], whole.tokens.push
        ⟨kind, (transition.collect whole.cursor.peek? whole.pending).toList⟩⟩
      ⟨StateId.start, transition.move part.cursor, #[], part.tokens.push
        ⟨kind, (transition.collect part.cursor.peek? part.pending).toList⟩⟩ where
  state := rfl
  pending := rfl
  tokens := by simp [resumes.tokens, resumes.peek?_eq, resumes.pending]
  within := Transition.within_move resumes.within
  place := resumes.move_eq transition

theorem fault (resumes : Resumes text passed tokens whole part) (cause : FaultCause) :
    SameFault text passed (whole.fault cause) (part.fault cause) where
  cause := rfl
  state := resumes.state.symm
  offset := by
    simp only [Config.fault, resumes.place, Cursor.index_after]
    omega
  pos := by
    simp only [Config.fault, resumes.place, Cursor.index_after, Cursor.pos_after]
    rw [← SourcePos.visitAll_append]
    congr 1
    have front : text.take passed =
        (text.take (passed + part.cursor.index)).take passed := by simp [List.take_take]
    rw [front, List.take_append_drop]

theorem step (automaton : Automaton κ) (whole part : Config κ)
    (resumes : Resumes text passed tokens whole part) :
    Progress.Related (Resumes text passed tokens) (fun all rest => all = tokens ++ rest)
      (SameFault text passed) (automaton.step whole) (automaton.step part) := by
  apply automaton.step_alike (fun _ _ later => later.tokens) resumes resumes.state resumes.peek?_eq
  · exact resumes.fault
  · exact resumes.moveTo
  · exact resumes.emit

end Resumes

namespace Automaton

variable {automaton : Automaton κ} {text : Text} {config : Config κ} {move : Move κ}
  {earlier later : List (Move κ)} {outcome : Outcome κ}

theorem Takes.target_of_emits (taken : automaton.Takes move.source move.transition move.target)
    (emits : move.emits = true) :
    move.target.state = StateId.start ∧ move.target.pending = #[] := by
  rcases Config.next?_cases taken.leads with ⟨state, decided, _⟩ | ⟨kind, _, target⟩
  · simp [Move.emits, decided] at emits
  · simp [target]

/-- A run goes on behind each token that it finishes, if only to rest at the end of the text. -/
theorem Run.behind_emission (run : automaton.Run config (earlier ++ move :: later) outcome)
    (emits : move.emits = true) : ∃ moves, automaton.Run move.target moves outcome := by
  induction earlier generalizing config with
  | nil =>
      cases run with
      | @close _ next _ taken ended =>
          have clean : next.state = StateId.start := (Takes.target_of_emits taken emits).1
          refine ⟨[], .rest ?_⟩
          simp [Config.isDone, clean, taken.atEnd_of_consumesEnd ended]
      | go taken running later => exact ⟨_, later⟩
  | cons first earlier inductionHypothesis =>
      generalize shape : first :: earlier ++ move :: later = moves at run
      cases run with
      | rest => simp at shape
      | refuse => simp at shape
      | close => simp at shape
      | go taken running later =>
          obtain ⟨_, rfl⟩ := List.cons.inj shape
          exact inductionHypothesis later

theorem Run.size_tokens (run : automaton.Run config (earlier ++ move :: later) outcome) :
    move.target.tokens.size =
      config.tokens.size + (earlier ++ [move]).countP Move.emits := by
  have grows : ∀ {source target : Config κ} {transition : Transition κ},
      automaton.Takes source transition target → target.tokens.size =
        source.tokens.size + [(⟨source, transition, target⟩ : Move κ)].countP Move.emits := by
    intro source target transition taken
    rcases Config.next?_cases taken.leads with ⟨state, decided, rfl⟩ | ⟨kind, decided, rfl⟩
    · simp [Move.emits, decided]
    · simp [Move.emits, decided]
  induction earlier generalizing config with
  | nil =>
      cases run with
      | close taken ended => exact grows taken
      | go taken running later => exact grows taken
  | cons first earlier inductionHypothesis =>
      generalize shape : first :: earlier ++ move :: later = moves at run
      cases run with
      | rest => simp at shape
      | refuse => simp at shape
      | close => simp at shape
      | go taken running later =>
          obtain ⟨rfl, rfl⟩ := List.cons.inj shape
          rw [inductionHypothesis later, grows taken, Nat.add_assoc, ← List.countP_append]
          rfl

/-- The run from behind a token on is the run over the rest of the text. -/
theorem Run.tokenize_rest (run : automaton.Run (.initial text) (earlier ++ move :: later) outcome)
    (wellFormed : automaton.WellFormed) (emits : move.emits = true) :
    Outcome.Related (fun all rest => all = move.target.tokens.toList ++ rest)
      (SameFault text move.target.cursor.index) outcome
      (automaton.tokenize (text.drop move.target.cursor.index)) := by
  have taken := run.takes move (by simp)
  have within := run.within (Cursor.Within.ofText text) move (by simp)
  obtain ⟨clean, empty⟩ := Takes.target_of_emits taken emits
  obtain ⟨moves, rest⟩ := run.behind_emission emits
  have resumes : Resumes text move.target.cursor.index move.target.tokens.toList move.target
      (.initial (text.drop move.target.cursor.index)) :=
    ⟨clean, empty, by simp [Config.initial], .ofText _, within.2⟩
  have reported := rest.runFor_eq (Nat.lt_succ_self moves.length)
  have related := runFor_related (Resumes.step automaton) (moves.length + 1) resumes
  rw [reported] at related
  -- The bound of the run over the rest is another one, but any bound that suffices will do.
  have ended := mt related.divergent_iff.mpr rest.ne_divergent
  rw [tokenize_eq_runFor wellFormed ended]
  exact related

end Automaton

/-- Behind any token that it finishes, a run of a drawn automaton starts over: the rest of the text
has the rest of the tokens, or the same fault, whose place in the text goes on from there. -/
theorem tokenize_restarts_behind_token (calls : List (Call κ)) (text : Text)
    {earlier later : List (Move κ)} {move : Move κ} {outcome : Outcome κ}
    (run : (Call.automaton calls).Run (.initial text) (earlier ++ move :: later) outcome)
    (emits : move.emits = true) :
    (∀ tokens, (Call.automaton calls).tokenize text = .accepted tokens →
      (Call.automaton calls).tokenize (text.drop move.target.cursor.index) =
        .accepted (tokens.drop ((earlier ++ [move]).countP Move.emits))) ∧
    ∀ fault, (Call.automaton calls).tokenize text = .rejected fault →
      ∃ shifted,
        (Call.automaton calls).tokenize (text.drop move.target.cursor.index) =
          .rejected shifted ∧
        shifted.cause = fault.cause ∧ shifted.state = fault.state ∧
        shifted.offset + move.target.cursor.index = fault.offset ∧
        fault.pos = move.target.cursor.pos.visitAll
          ((text.take fault.offset).drop move.target.cursor.index) := by
  have wellFormed := Call.automaton_wellFormed calls
  have related := run.tokenize_rest wellFormed emits
  have counted := run.size_tokens
  have within := run.within (Cursor.Within.ofText text) move (by simp)
  rw [run.tokenize_eq wellFormed]
  generalize (Call.automaton calls).tokenize (text.drop move.target.cursor.index) = rest at related
  cases related with
  | accepted same =>
      refine ⟨?_, by simp⟩
      intro tokens accepted
      obtain rfl := Outcome.accepted.inj accepted
      have count : (earlier ++ [move]).countP Move.emits = move.target.tokens.toList.length := by
        simp [counted, Config.initial]
      rw [same, count, List.drop_left]
  | rejected same =>
      refine ⟨by simp, ?_⟩
      intro fault rejected
      obtain rfl := Outcome.rejected.inj rejected
      refine ⟨_, rfl, same.cause, same.state, same.offset, ?_⟩
      rw [within.pos]
      exact same.pos
  | divergent =>
      constructor
      · simp
      · simp

/-- Each letter is a token, and line breaks are left out. -/
def lettersOnLines : List (Call Nat) :=
  [.on 0 .letter, .emit 0 7, .on 0 (.oneOf ['\n']), .ignore 1, .stay 1]

theorem lettersOnLines_restart :
    ∃ earlier move later,
      (Call.automaton lettersOnLines).Run (.initial "a\nb1".toList) (earlier ++ move :: later)
        (.rejected ⟨.unmatched (some '1'), ⟨2, 1⟩, 3, 0⟩) ∧
      move.emits = true ∧ move.target.cursor.index = 1 ∧
      ∃ shifted,
        (Call.automaton lettersOnLines).tokenize "\nb1".toList = .rejected shifted ∧
        shifted.cause = .unmatched (some '1') ∧ shifted.state = 0 ∧ shifted.offset + 1 = 3 ∧
        ⟨2, 1⟩ = SourcePos.visitAll ⟨1, 1⟩ "\nb".toList := by
  have run : (Call.automaton lettersOnLines).Run (.initial "a\nb1".toList) ([] ++ _ :: _)
      (.rejected ⟨.unmatched (some '1'), ⟨2, 1⟩, 3, 0⟩) :=
    .go ⟨rfl, rfl, rfl⟩ rfl (.go ⟨rfl, rfl, rfl⟩ rfl (.go ⟨rfl, rfl, rfl⟩ rfl
      (.refuse rfl (.unmatched rfl))))
  obtain ⟨shifted, rest, cause, state, offset, pos⟩ :=
    (tokenize_restarts_behind_token lettersOnLines "a\nb1".toList run rfl).2
      ⟨.unmatched (some '1'), ⟨2, 1⟩, 3, 0⟩ (by decide)
  exact ⟨[], _, _, run, rfl, rfl, shifted, rest, cause, state, offset, pos⟩

end LexKit

import LexKit.Proofs.Scan.Conservation
import LexKit.Proofs.Scan.Locality
import LexKit.Proofs.Scan.Reading
import LexKit.Proofs.Scan.Rewinding

/-!
Reading token after token.

`Automaton.ReadsTokens` repeats the reading of one token: it takes tokens off the front of a text
until something is left over.  If nothing is left, the text is accepted with these tokens; if the
rest can not be read, the text is rejected with the fault that the rest has, and the last token that
was finished ends where the rest begins.
-/

namespace LexKit

variable {κ : Type}

namespace Automaton

/-- The place behind the last token that the run over a text finishes, and the front of the text if
it finishes none. -/
def lastTokenEnd (automaton : Automaton κ) (text : Text) : Nat :=
  lastCut (automaton.movesIn (automaton.stepBound text) (.initial text))

/-- Tokens that are read one after the other off the front of a text, and what is left of it. -/
inductive ReadsTokens (automaton : Automaton κ) : Text → List (Token κ) → Text → Prop where
  | none (text : Text) : ReadsTokens automaton text [] text
  | token {text rest left : Text} {token : Token κ} {tokens : List (Token κ)}
      (first : automaton.Reads StateId.start [] text (.token token rest))
      (later : ReadsTokens automaton rest tokens left) :
      ReadsTokens automaton text (token :: tokens) left

variable {automaton : Automaton κ} {state target : StateId} {pending ahead rest stop text : Text}
  {token : Token κ} {tokens : List (Token κ)} {cause : FaultCause} {config next : Config κ}
  {moves others : List (Move κ)} {outcome : Outcome κ}

theorem ReadsTokens.text_eq (reads : automaton.ReadsTokens text tokens rest) :
    text = tokens.flatMap Token.value ++ rest := by
  induction reads with
  | none text => rfl
  | token first later inductionHypothesis =>
      rw [List.flatMap_cons, List.append_assoc, ← inductionHypothesis]
      exact first.pending_append_ahead

/-! ### The moves of a reading -/

theorem Run.moves_unique (run : automaton.Run config moves outcome) {other : Outcome κ}
    (otherRun : automaton.Run config others other) : moves = others := by
  have same := (run.movesIn_eq (moves.length + others.length)).symm.trans
    (otherRun.movesIn_eq (moves.length + others.length))
  rwa [List.take_of_length_le (Nat.le_add_right _ _),
    List.take_of_length_le (Nat.le_add_left _ _)] at same

theorem Run.lastTokenEnd_eq (run : automaton.Run (.initial text) moves outcome)
    (wellFormed : automaton.WellFormed) : automaton.lastTokenEnd text = lastCut moves := by
  have ended : automaton.tokenize text ≠ .divergent := by
    rw [run.tokenize_eq wellFormed]
    exact run.ne_divergent
  obtain ⟨others, bounded, otherRun⟩ := exists_run_of_runFor ended
  rw [← run.moves_unique otherRun] at bounded
  rw [lastTokenEnd, run.movesIn_eq, List.take_of_length_le bounded]

/-- A round that goes on is a move, and the move is a cut if a token is finished in it. -/
theorem exists_run_of_step (step : automaton.step config = .running next)
    (later : automaton.Run next moves outcome) :
    ∃ all, automaton.Run config all outcome ∧
      cuts all = if next.tokens.size = config.tokens.size then cuts moves
        else next.cursor.index :: cuts moves := by
  obtain ⟨transition, taken⟩ := exists_takes_of_step step
  refine ⟨_, .go taken (taken.consumesEnd_eq_false_of_step step) later, ?_⟩
  rcases Config.next?_cases taken.leads with ⟨state, decided, rfl⟩ | ⟨kind, decided, rfl⟩
  · rw [cuts_cons_of_not_emits (by simp [Move.emits, decided]), if_pos rfl]
  · rw [cuts_cons_of_emits (by simp [Move.emits, decided]), if_neg (by simp)]

theorem exists_run_of_finish (step : automaton.step config = .running next)
    (faces : next.Faces text StateId.start [] rest)
    (grown : next.tokens = config.tokens.push token) (later : automaton.Run next moves outcome) :
    ∃ all, automaton.Run config all outcome ∧
      cuts all = (text.length - rest.length) :: cuts moves := by
  obtain ⟨all, run, cut⟩ := exists_run_of_step step later
  refine ⟨all, run, ?_⟩
  rw [cut, if_neg (by simp [grown]), faces.index_eq]

/-- The run comes to the rest of the text behind a token, and its only cut up to there is the one
behind the token. -/
theorem Reads.exists_run (reads : automaton.Reads state pending ahead (.token token rest))
    (faces : config.Faces text state pending ahead) :
    ∃ next : Config κ, next.Faces text StateId.start [] rest ∧
      next.tokens = config.tokens.push token ∧
      ∀ moves outcome, automaton.Run next moves outcome →
        ∃ all, automaton.Run config all outcome ∧
          cuts all = (text.length - rest.length) :: cuts moves := by
  generalize shape : Reading.token token rest = reading at reads
  induction reads generalizing config with
  | @keep state target pending ahead c reading acts later inductionHypothesis =>
      have moved := faces.step target (config.pending.push c) config.tokens
      rw [Array.toList_push, faces.pending_eq] at moved
      obtain ⟨next, nextFaces, grown, runs⟩ := inductionHypothesis moved shape
      refine ⟨next, nextFaces, grown, ?_⟩
      intro moves outcome later
      obtain ⟨middle, middleRun, middleCuts⟩ := runs moves outcome later
      obtain ⟨all, run, cut⟩ := exists_run_of_step (step_of_keep faces acts) middleRun
      exact ⟨all, run, by rw [cut, if_pos rfl, middleCuts]⟩
  | @finish state pending ahead c kind acts =>
      cases shape
      have nextFaces := faces.step StateId.start #[] (config.tokens.push ⟨kind, pending ++ [c]⟩)
      refine ⟨_, nextFaces, rfl, ?_⟩
      intro moves outcome later
      exact exists_run_of_finish (step_of_keep faces acts) nextFaces rfl later
  | @leave state pending ahead kind inToken acts =>
      cases shape
      have nextFaces := faces.restart (config.tokens.push ⟨kind, pending⟩)
      refine ⟨_, nextFaces, rfl, ?_⟩
      intro moves outcome later
      exact exists_run_of_finish (step_of_leave faces inToken acts) nextFaces rfl later
  | refuse => simp at shape

/-- A fault that is met while reading ends the run without another cut. -/
theorem Reads.exists_run_fault
    (reads : automaton.Reads state pending ahead (.fault cause target rest))
    (faces : config.Faces text state pending ahead) :
    ∃ moves, cuts moves = [] ∧ automaton.Run config moves (.rejected
      ⟨cause, SourcePos.origin.visitAll (text.take (text.length - rest.length)),
        text.length - rest.length, target⟩) := by
  generalize shape : Reading.fault cause target rest = reading at reads
  induction reads generalizing config with
  | @keep state target pending ahead c reading acts later inductionHypothesis =>
      have moved := faces.step target (config.pending.push c) config.tokens
      rw [Array.toList_push, faces.pending_eq] at moved
      obtain ⟨moves, noCut, later⟩ := inductionHypothesis moved shape
      obtain ⟨all, run, cut⟩ := exists_run_of_step (step_of_keep faces acts) later
      exact ⟨all, by rw [cut, if_pos rfl, noCut], run⟩
  | finish => simp at shape
  | leave => simp at shape
  | @refuse state pending ahead cause unfinished refused =>
      cases shape
      rw [← faces.state_eq, ← faces.peek?_eq] at refused
      refine ⟨[], rfl, ?_⟩
      rw [← faces.index_eq, ← faces.within.pos, ← faces.state_eq]
      exact .refuse (faces.isDone_eq_false unfinished) refused

theorem ReadsTokens.exists_run (reads : automaton.ReadsTokens ahead tokens rest)
    (faces : config.Faces text StateId.start [] ahead) :
    ∃ next : Config κ, next.Faces text StateId.start [] rest ∧
      next.tokens.toList = config.tokens.toList ++ tokens ∧
      ∀ moves outcome, automaton.Run next moves outcome →
        ∃ all, automaton.Run config all outcome ∧
          (cuts all).getLast?.getD (text.length - ahead.length) =
            (cuts moves).getLast?.getD (text.length - rest.length) := by
  induction reads generalizing config with
  | none ahead => exact ⟨config, faces, by simp, fun moves _ run => ⟨moves, run, rfl⟩⟩
  | token first later inductionHypothesis =>
      obtain ⟨middle, middleFaces, grown, runs⟩ := first.exists_run faces
      obtain ⟨next, nextFaces, more, laterRuns⟩ := inductionHypothesis middleFaces
      refine ⟨next, nextFaces, by simp [more, grown], ?_⟩
      intro moves outcome run
      obtain ⟨behind, behindRun, sameLast⟩ := laterRuns moves outcome run
      obtain ⟨all, allRun, cut⟩ := runs behind outcome behindRun
      refine ⟨all, allRun, ?_⟩
      rw [cut, List.getLast?_cons, Option.getD_some, sameLast]

/-! ### What the text comes to -/

theorem ReadsTokens.tokenize_eq (reads : automaton.ReadsTokens text tokens [])
    (wellFormed : automaton.WellFormed) : automaton.tokenize text = .accepted tokens := by
  obtain ⟨next, faces, grown, runs⟩ := reads.exists_run (.initial text)
  have done : next.isDone = true := by
    simp [Config.isDone, faces.state_eq, Cursor.atEnd, faces.rest_eq]
  obtain ⟨all, run, _⟩ := runs [] _ (.rest done)
  have all : next.tokens.toList = tokens := by simpa [Config.initial] using grown
  rw [run.tokenize_eq wellFormed, all]

/-- What can not be read behind the last token makes the whole text fail. -/
theorem ReadsTokens.tokenize_fault (reads : automaton.ReadsTokens text tokens rest)
    (broken : automaton.Reads StateId.start [] rest (.fault cause state stop))
    (wellFormed : automaton.WellFormed) :
    automaton.tokenize text = .rejected
        ⟨cause, SourcePos.origin.visitAll (text.take (text.length - stop.length)),
          text.length - stop.length, state⟩ ∧
      automaton.lastTokenEnd text = text.length - rest.length := by
  obtain ⟨next, faces, _, runs⟩ := reads.exists_run (.initial text)
  obtain ⟨moves, noCut, failing⟩ := broken.exists_run_fault faces
  obtain ⟨all, run, sameLast⟩ := runs moves _ failing
  refine ⟨run.tokenize_eq wellFormed, ?_⟩
  rw [noCut, Nat.sub_self] at sameLast
  rw [run.lastTokenEnd_eq wellFormed]
  exact sameLast

section Induction

variable {property : Text → Reading κ → Prop}
  (readable : ∀ text ≠ [], ∃ reading, automaton.Reads StateId.start [] text reading ∧
    property text reading)
  (advances : ∀ text token rest, property text (.token token rest) → token.value ≠ [])

include readable advances

/-- If every text has a reading, and every token that is read has a value, then each text can be
dealt with by what is left of it behind its first token. -/
theorem reading_induction {motive : Text → Prop} (nil : motive [])
    (fault : ∀ text cause state stop,
      automaton.Reads StateId.start [] text (.fault cause state stop) →
      property text (.fault cause state stop) → motive text)
    (token : ∀ text token rest, automaton.Reads StateId.start [] text (.token token rest) →
      property text (.token token rest) → motive rest → motive text)
    (text : Text) : motive text := by
  induction length : text.length using Nat.strongRecOn generalizing text with
  | ind size inductionHypothesis =>
      by_cases empty : text = []
      · exact empty ▸ nil
      obtain ⟨reading, reads, holds⟩ := readable text empty
      cases reading with
      | fault cause state stop => exact fault text cause state stop reads holds
      | token first rest =>
          have shorter : rest.length < size := by
            have whole : text = first.value ++ rest := reads.pending_append_ahead
            have positive := List.length_pos_of_ne_nil (advances text first rest holds)
            rw [whole, List.length_append] at length
            omega
          exact token text first rest reads holds (inductionHypothesis _ shorter rest rfl)

/-- The reading of tokens comes to the end of the text or to a fault. -/
theorem exists_readsTokens (text : Text) :
    ∃ tokens rest, automaton.ReadsTokens text tokens rest ∧
      (∀ token ∈ tokens, ∃ text rest, property text (.token token rest)) ∧
      (rest = [] ∨ ∃ cause state stop,
        automaton.Reads StateId.start [] rest (.fault cause state stop) ∧
        property rest (.fault cause state stop)) := by
  induction text using reading_induction readable advances with
  | nil => exact ⟨[], [], .none [], by simp, .inl rfl⟩
  | fault text cause state stop reads holds =>
      exact ⟨[], text, .none text, by simp, .inr ⟨cause, state, stop, reads, holds⟩⟩
  | token text token rest reads holds inductionHypothesis =>
      obtain ⟨tokens, left, later, all, ends⟩ := inductionHypothesis
      refine ⟨token :: tokens, left, .token reads later, ?_, ends⟩
      exact List.forall_mem_cons.mpr ⟨⟨text, rest, holds⟩, all⟩

end Induction

end Automaton

end LexKit

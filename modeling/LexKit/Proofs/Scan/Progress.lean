import LexKit.Proofs.Scan.Conservation
import LexKit.Proofs.Scan.Divergence
import LexKit.Proofs.Scan.Locality
import LexKit.Proofs.Scan.Restart
import Mathlib.Data.List.Nodup

/-!
Every token makes progress.

A transition may finish a token without passing a character, and the token may be empty, so no
single step shows that a run gets on in its text.  That it comes to an end shows it: back in the
start state at the same place, the run would do the same again, for ever.  So the cuts behind the
tokens of a run follow each other strictly, and no text has more tokens than characters.
-/

namespace LexKit

variable {κ : Type}

theorem Move.isSome_token? (move : Move κ) : move.token?.isSome = move.emits := by
  rw [token?, emits]
  cases move.transition.disposition with
  | none => rfl
  | some disposition => cases disposition <;> rfl

namespace Automaton

variable {automaton : Automaton κ} {text : Text} {config : Config κ} {move : Move κ}
  {moves earlier later : List (Move κ)} {outcome : Outcome κ}

theorem Run.isDone_eq_false (run : automaton.Run config (earlier ++ move :: later) outcome) :
    config.isDone = false := by
  generalize shape : earlier ++ move :: later = moves at run
  cases run with
  | rest => simp at shape
  | refuse notDone => exact notDone
  | close taken => exact taken.notDone
  | go taken => exact taken.notDone

/-- Behind a move that does not end the run stands the head of a round. -/
theorem Run.atRound?_target (run : automaton.Run config (earlier ++ move :: later) outcome)
    (running : move.consumesEnd = false) :
    automaton.atRound? (earlier.length + 1) config = some move.target := by
  have stepped {config next : Config κ} {transition : Transition κ}
      (taken : automaton.Takes config transition next)
      (running : transition.consumesEnd config.cursor = false) :
      automaton.step config = .running next := by
    rw [taken.step, running]
    rfl
  induction earlier generalizing config with
  | nil =>
      cases run with
      | close taken ended => simp [Move.consumesEnd, ended] at running
      | go taken unended rest => simp [atRound?, stepped taken unended]
  | cons first earlier inductionHypothesis =>
      generalize shape : first :: earlier ++ move :: later = moves at run
      cases run with
      | rest => simp at shape
      | refuse => simp at shape
      | close => simp at shape
      | go taken unended rest =>
          obtain ⟨rfl, rfl⟩ := List.cons.inj shape
          rw [List.length_cons, atRound?, stepped taken unended]
          exact inductionHypothesis rest

/-- A run from the start state has moved on whenever it finishes a token: otherwise it would be back
where it began, with as many rounds to go as it had there. -/
theorem Run.index_lt_of_emits (run : automaton.Run config (earlier ++ move :: later) outcome)
    (within : Cursor.Within text config.cursor) (start : config.state = StateId.start)
    (emits : move.emits = true) : config.cursor.index < move.target.cursor.index := by
  have ordered := run.cuts_ordered within
  have cut : move.target.cursor.index ∈ cuts (earlier ++ move :: later) :=
    List.mem_map.mpr ⟨move, List.mem_filter.mpr ⟨by simp, emits⟩, rfl⟩
  apply Nat.lt_of_le_of_ne ((List.pairwise_cons.mp ordered).1 _ cut)
  intro sameIndex
  have taken := run.takes move (by simp)
  have targetStart := (Takes.target_of_emits taken emits).1
  have samePlace : config.SamePlace move.target :=
    ⟨start.trans targetStart.symm,
      within.eq_of_index_eq (run.within within move (by simp)) sameIndex⟩
  have running : move.consumesEnd = false := by
    by_contra ended
    have atEnd := taken.atEnd_of_consumesEnd (Bool.not_eq_false _ ▸ ended)
    have done : config.isDone = true := by
      rw [Config.isDone_alike samePlace.1 (by rw [samePlace.2])]
      simp [Config.isDone, targetStart, atEnd]
    simp [run.isDone_eq_false] at done
  have reported := run.runFor_eq (Nat.lt_succ_self _)
  obtain ⟨count, _, ends⟩ := exists_endsAfter (reported ▸ run.ne_divergent)
  obtain ⟨bounded, targetEnds⟩ := ends.atRound? (run.atRound?_target running)
  have sameCount := ends.eq_of_samePlace targetEnds samePlace
  omega

theorem Run.index_lt_of_mem_cuts (run : automaton.Run config moves outcome)
    (within : Cursor.Within text config.cursor) (start : config.state = StateId.start) :
    ∀ cut ∈ cuts moves, config.cursor.index < cut := by
  intro cut member
  obtain ⟨move, moveMember, rfl⟩ := List.mem_map.mp member
  obtain ⟨moveMember, emits⟩ := List.mem_filter.mp moveMember
  obtain ⟨earlier, later, rfl⟩ := List.append_of_mem moveMember
  exact run.index_lt_of_emits within start emits

/-- Each token starts the run over at a place of its own. -/
theorem Run.cuts_increase (run : automaton.Run config moves outcome)
    (within : Cursor.Within text config.cursor) : (cuts moves).Pairwise (· < ·) := by
  induction run with
  | rest => simp [cuts]
  | refuse => simp [cuts]
  | @close config next transition taken ended =>
      cases emits : Move.emits ⟨config, transition, next⟩ <;> simp [cuts, emits]
  | @go config next transition moves outcome taken running later inductionHypothesis =>
      have increase := inductionHypothesis (taken.within within)
      cases emits : Move.emits ⟨config, transition, next⟩ with
      | true =>
          rw [cuts_cons_of_emits emits]
          have start : next.state = StateId.start := (Takes.target_of_emits taken emits).1
          exact .cons (later.index_lt_of_mem_cuts (taken.within within) start) increase
      | false =>
          rw [cuts_cons_of_not_emits emits]
          exact increase

theorem Run.cuts_increase_initial (run : automaton.Run (.initial text) moves outcome) :
    (0 :: cuts moves).Pairwise (· < ·) :=
  .cons (run.index_lt_of_mem_cuts (.ofText text) rfl) (run.cuts_increase (.ofText text))

theorem Run.length_tokens {tokens : List (Token κ)}
    (run : automaton.Run (.initial text) moves (.accepted tokens)) :
    tokens.length = (cuts moves).length := by
  rw [run.tokens_eq, cuts, List.length_map, ← List.countP_eq_length_filter]
  simp [Config.initial, List.length_filterMap_eq_countP, Move.isSome_token?]

theorem Run.length_tokens_le {tokens : List (Token κ)}
    (run : automaton.Run (.initial text) moves (.accepted tokens)) :
    tokens.length ≤ text.length := by
  have distinct : (0 :: cuts moves).Nodup := run.cuts_increase_initial.imp Nat.ne_of_lt
  have inside : 0 :: cuts moves ⊆ List.range (text.length + 1) := by
    intro place member
    rw [List.mem_range]
    rcases List.mem_cons.mp member with rfl | cut
    · exact Nat.succ_pos _
    · exact Nat.lt_succ_of_le (run.cuts_bounded place cut)
  have counted := (List.subperm_of_subset distinct inside).length_le
  rw [List.length_cons, List.length_range, ← run.length_tokens] at counted
  exact Nat.le_of_succ_le_succ counted

end Automaton

/-- In a run that comes to an end, well or not, the place behind each token lies strictly behind the
place of the token before it, and the first one behind the front of the text.  So a text is accepted
with no more tokens than it has characters. -/
theorem tokens_make_progress {automaton : Automaton κ} (wellFormed : automaton.WellFormed)
    {text : Text} (ends : ¬automaton.RunsForever text) :
    (∃ moves, automaton.Run (.initial text) moves (automaton.tokenize text)) ∧
    (∀ moves outcome, automaton.Run (.initial text) moves outcome →
      outcome = automaton.tokenize text ∧ (0 :: cuts moves).Pairwise (· < ·)) ∧
    ∀ tokens, automaton.tokenize text = .accepted tokens → tokens.length ≤ text.length := by
  have ended := mt (Automaton.runsForever_of_tokenize wellFormed) ends
  obtain ⟨moves, run⟩ := Automaton.exists_run_of_tokenize ended
  refine ⟨⟨moves, run⟩, ?_, ?_⟩
  · intro others outcome other
    exact ⟨(other.tokenize_eq wellFormed).symm, other.cuts_increase_initial⟩
  · intro tokens accepted
    rw [accepted] at run
    exact run.length_tokens_le

/-- Each letter is left out, and an empty token is made of it in front of the next character. -/
def emptyTokens : List (Call Nat) :=
  [.on 0 .letter, .ignore 0, .moveToNew 0, .on 1 .any, .rewind 1, .emit 1 7]

theorem emptyTokens_make_progress :
    ¬(Call.automaton emptyTokens).RunsForever "ab".toList ∧
      (Call.automaton emptyTokens).tokenize "ab".toList = .accepted [⟨7, []⟩, ⟨7, []⟩] ∧
      (∃ moves, (Call.automaton emptyTokens).Run (.initial "ab".toList) moves
        (.accepted [⟨7, []⟩, ⟨7, []⟩]) ∧ (0 :: cuts moves).Pairwise (· < ·)) ∧
      [(⟨7, []⟩ : Token Nat), ⟨7, []⟩].length ≤ "ab".toList.length := by
  have accepted : (Call.automaton emptyTokens).tokenize "ab".toList =
      .accepted [⟨7, []⟩, ⟨7, []⟩] := by decide
  have ends : ¬(Call.automaton emptyTokens).RunsForever "ab".toList := by
    intro forever
    have divergent := forever.tokenize_eq
    rw [accepted] at divergent
    cases divergent
  obtain ⟨⟨moves, run⟩, progress, few⟩ :=
    tokens_make_progress (Call.automaton_wellFormed emptyTokens) ends
  have increase := (progress moves _ run).2
  rw [accepted] at run
  exact ⟨ends, accepted, ⟨moves, run, increase⟩, few _ accepted⟩

end LexKit

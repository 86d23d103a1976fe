import LexKit.Proofs.Scan.Bound

/-!
No character is lost, doubled or moved.

A run over a text passes its characters one by one.  Whether a character becomes part of a token is
up to the transition that passes it; to which token, is up to the cuts, the places at which tokens
were finished.  Only what follows the last cut is dropped in silence.
-/

namespace LexKit

variable {κ : Type}

/-! ### Parts of a text -/

/-- The characters at the kept ones among the positions from `first` up to `last`. -/
def Text.pick (text : Text) (keeps : Nat → Bool) (first last : Nat) : Text :=
  ((List.range' first (last - first)).filter keeps).filterMap (text[·]?)

namespace Text

variable (text : Text) (keeps : Nat → Bool)

theorem pick_self (position : Nat) : text.pick keeps position position = [] := by
  simp [pick]

theorem pick_append {first middle last : Nat} (before : first ≤ middle) (behind : middle ≤ last) :
    text.pick keeps first middle ++ text.pick keeps middle last = text.pick keeps first last := by
  have joined : List.range' first (middle - first) ++ List.range' middle (last - middle) =
      List.range' first (last - first) := by
    have start : middle = first + 1 * (middle - first) := by omega
    have size : last - first = (middle - first) + (last - middle) := by omega
    rw [size, ← List.range'_append, ← start]
  simp only [pick, ← joined, List.filter_append, List.filterMap_append]

theorem pick_succ {position : Nat} (inside : position < text.length) :
    text.pick keeps position (position + 1) = if keeps position then [text[position]] else [] := by
  cases kept : keeps position <;> simp [pick, kept, inside]

theorem pick_sublist_take {last : Nat} (bounded : last ≤ text.length) :
    (text.pick keeps 0 last).Sublist (text.take last) := by
  induction last with
  | zero => simp [pick_self]
  | succ last inductionHypothesis =>
      have inside : last < text.length := bounded
      rw [← pick_append text keeps (Nat.zero_le last) (Nat.le_succ last), pick_succ text keeps inside,
        List.take_succ_eq_append_getElem inside]
      apply List.Sublist.append (inductionHypothesis (Nat.le_of_lt inside))
      split <;> simp

theorem pick_eq_take {last : Nat} (bounded : last ≤ text.length)
    (all : ∀ position < last, keeps position = true) : text.pick keeps 0 last = text.take last := by
  induction last with
  | zero => simp [pick_self]
  | succ last inductionHypothesis =>
      have inside : last < text.length := bounded
      have earlier : ∀ position < last, keeps position = true := by
        intro position before
        exact all position (Nat.lt_succ_of_lt before)
      rw [← pick_append text keeps (Nat.zero_le last) (Nat.le_succ last), pick_succ text keeps inside,
        List.take_succ_eq_append_getElem inside, inductionHypothesis (Nat.le_of_lt inside) earlier,
        all last (Nat.lt_succ_self last)]
      simp

/-- What is kept between successive cuts is all that is kept up to the last of them. -/
theorem flatten_zipWith_pick {first : Nat} {cuts : List Nat}
    (ordered : (first :: cuts).Pairwise (· ≤ ·)) :
    (List.zipWith (text.pick keeps) (first :: cuts) cuts).flatten =
      text.pick keeps first (cuts.getLast?.getD first) := by
  induction cuts generalizing first with
  | nil => simp [pick_self]
  | cons cut cuts inductionHypothesis =>
      obtain ⟨leading, later⟩ := List.pairwise_cons.mp ordered
      have toLast : cut ≤ cuts.getLast?.getD cut := by
        cases last : cuts.getLast? with
        | none => simp
        | some value =>
            exact (List.pairwise_cons.mp later).1 value (List.mem_of_getLast? last)
      have sameLast : (cut :: cuts).getLast?.getD first = cuts.getLast?.getD cut := by
        simp [List.getLast?_cons]
      simp only [List.zipWith_cons_cons, List.flatten_cons]
      rw [inductionHypothesis later, sameLast]
      exact pick_append text keeps (leading cut (by simp)) toLast

end Text

/-! ### Cuts and kept positions -/

/-- The places at which the moves of a run finish tokens. -/
def cuts (moves : List (Move κ)) : List Nat :=
  (moves.filter Move.emits).map fun move => move.target.cursor.index

def lastCut (moves : List (Move κ)) : Nat :=
  (cuts moves).getLast?.getD 0

/-- Whether the character at a position is passed by a move that makes it part of a token. -/
def keeps (moves : List (Move κ)) (position : Nat) : Bool :=
  moves.any fun move => move.passes && move.index == position && move.transition.includes

theorem cuts_cons_of_emits {move : Move κ} (emits : move.emits = true) (moves : List (Move κ)) :
    cuts (move :: moves) = move.target.cursor.index :: cuts moves := by
  simp [cuts, emits]

theorem cuts_cons_of_not_emits {move : Move κ} (silent : move.emits = false)
    (moves : List (Move κ)) : cuts (move :: moves) = cuts moves := by
  simp [cuts, silent]

/-- The values of tokens that are finished at the cuts, if some characters are pending before. -/
def blocks (text : Text) (kept : Nat → Bool) (pending : Text) (first : Nat) :
    List Nat → List Text
  | [] => []
  | cut :: later =>
      (pending ++ text.pick kept first cut) ::
        List.zipWith (text.pick kept) (cut :: later) later

theorem blocks_cons (text : Text) (kept : Nat → Bool) (pending : Text) (first cut : Nat)
    (later : List Nat) :
    blocks text kept pending first (cut :: later) =
      (pending ++ text.pick kept first cut) ::
        List.zipWith (text.pick kept) (cut :: later) later := rfl

theorem blocks_nil_eq (text : Text) (kept : Nat → Bool) (first : Nat) (later : List Nat) :
    blocks text kept [] first later =
      List.zipWith (text.pick kept) (first :: later) later := by
  cases later <;> simp [blocks]

theorem blocks_extend {text : Text} {kept : Nat → Bool} {pending : Text} {first next : Nat}
    {later : List Nat} (forward : first ≤ next) (ordered : ∀ cut ∈ later, next ≤ cut) :
    blocks text kept (pending ++ text.pick kept first next) next later =
      blocks text kept pending first later := by
  cases later with
  | nil => rfl
  | cons cut later =>
      have joined := text.pick_append kept forward (ordered cut (by simp))
      simp only [blocks_cons, List.append_assoc, joined]

namespace Automaton

variable {automaton : Automaton κ} {text : Text} {config next : Config κ}
  {transition : Transition κ} {moves : List (Move κ)} {outcome : Outcome κ}

/-! ### One move -/

/-- What a move collects is the character that it passes, if that is kept. -/
theorem Takes.collect_eq (taken : automaton.Takes config transition next)
    (within : Cursor.Within text config.cursor)
    (disciplined : transition.rereads = true → transition.includes = false)
    {kept : Nat → Bool} (agrees : transition.passes config.cursor = true →
      kept config.cursor.index = transition.includes) :
    (transition.collect config.cursor.peek? config.pending).toList =
      config.pending.toList ++ text.pick kept config.cursor.index next.cursor.index := by
  rw [taken.index_eq within]
  cases passed : transition.passes config.cursor with
  | true =>
      have notAtEnd : config.cursor.atEnd = false := by
        simp only [Transition.passes, Bool.and_eq_true, Bool.not_eq_true'] at passed
        exact passed.2
      have inside := within.index_lt notAtEnd
      simp only [↓reduceIte, text.pick_succ kept inside, agrees passed, within.peek?,
        List.getElem?_eq_getElem inside]
      cases included : transition.includes <;> simp [Transition.collect, included]
  | false =>
      simp only [Bool.false_eq_true, ↓reduceIte, text.pick_self, List.append_nil]
      cases reread : transition.rereads with
      | true => simp [Transition.collect, disciplined reread]
      | false =>
          have ended : config.cursor.atEnd = true := by
            simpa [Transition.passes, reread] using passed
          rw [config.cursor.peek?_eq_none_iff.mpr ended]
          cases included : transition.includes <;> simp [Transition.collect, included]

/-! ### Whole runs -/

/-- A run that ends well passes all characters that are left, one after another. -/
theorem Run.passed_eq {tokens : List (Token κ)}
    (run : automaton.Run config moves (.accepted tokens))
    (within : Cursor.Within text config.cursor) :
    (moves.filter Move.passes).map Move.index =
      List.range' config.cursor.index (text.length - config.cursor.index) := by
  generalize accepted : Outcome.accepted tokens = outcome at run
  induction run with
  | rest done =>
      simp only [Config.isDone, Bool.and_eq_true] at done
      simp [within.atEnd_iff.mp done.2]
  | refuse => simp at accepted
  | @close config next transition taken ended =>
      simp only [Transition.consumesEnd, Bool.and_eq_true] at ended
      have kept : Move.passes ⟨config, transition, next⟩ = false := by
        simp [Move.passes, Transition.passes, ended.1]
      simp [kept, within.atEnd_iff.mp ended.1]
  | @go config next transition moves outcome taken running later inductionHypothesis =>
      have rest := inductionHypothesis (taken.within within) accepted
      have bounded := (taken.within within).1
      rw [taken.index_eq within] at rest bounded
      cases passed : transition.passes config.cursor with
      | true =>
          simp only [passed, ↓reduceIte] at rest bounded
          have size : text.length - config.cursor.index =
              (text.length - (config.cursor.index + 1)) + 1 := by omega
          simp [Move.passes, passed, rest, Move.index, size, List.range'_succ]
      | false =>
          simp only [passed, Bool.false_eq_true, ↓reduceIte] at rest
          simp [Move.passes, passed, rest]

theorem Run.cuts_ordered (run : automaton.Run config moves outcome)
    (within : Cursor.Within text config.cursor) :
    (config.cursor.index :: cuts moves).Pairwise (· ≤ ·) := by
  induction run with
  | rest => simp [cuts]
  | refuse => simp [cuts]
  | @close config next transition taken ended =>
      have forward := taken.index_le within
      cases emits : Move.emits ⟨config, transition, next⟩ with
      | true => simpa [cuts, emits] using forward
      | false => simp [cuts, emits]
  | @go config next transition moves outcome taken running later inductionHypothesis =>
      have forward := taken.index_le within
      have ordered := inductionHypothesis (taken.within within)
      have behind : ∀ cut ∈ cuts moves, config.cursor.index ≤ cut := by
        intro cut member
        exact Nat.le_trans forward ((List.pairwise_cons.mp ordered).1 cut member)
      cases emits : Move.emits ⟨config, transition, next⟩ with
      | true =>
          rw [cuts_cons_of_emits emits]
          apply List.Pairwise.cons _ ordered
          intro cut member
          rcases List.mem_cons.mp member with rfl | member
          · exact forward
          · exact behind cut member
      | false =>
          rw [cuts_cons_of_not_emits emits]
          exact List.pairwise_cons.mpr ⟨behind, (List.pairwise_cons.mp ordered).2⟩

/-- Each token holds what was kept since the cut before it. -/
theorem Run.values_eq {tokens : List (Token κ)}
    (run : automaton.Run config moves (.accepted tokens))
    (within : Cursor.Within text config.cursor)
    (disciplined : ∀ move ∈ moves,
      move.transition.rereads = true → move.transition.includes = false)
    {kept : Nat → Bool} (agrees : ∀ move ∈ moves, move.passes = true →
      kept move.index = move.transition.includes) :
    tokens.map Token.value = config.tokens.toList.map Token.value ++
      blocks text kept config.pending.toList config.cursor.index (cuts moves) := by
  generalize accepted : Outcome.accepted tokens = outcome at run
  induction run with
  | rest done =>
      cases accepted
      simp [cuts, blocks]
  | refuse => simp at accepted
  | @close config next transition taken ended =>
      cases accepted
      have collected := taken.collect_eq within
        (disciplined ⟨config, transition, next⟩ List.mem_cons_self)
        (agrees ⟨config, transition, next⟩ List.mem_cons_self)
      rcases Config.next?_cases taken.leads with ⟨state, decided, rfl⟩ | ⟨kind, decided, rfl⟩
      · simp [cuts, Move.emits, decided, blocks]
      · simp only [cuts, Move.emits, decided, List.filter_cons_of_pos, List.filter_nil,
          List.map_cons, List.map_nil, blocks, List.zipWith_nil_right]
        simp [collected]
  | @go config next transition moves outcome taken running later inductionHypothesis =>
      have collected := taken.collect_eq within
        (disciplined ⟨config, transition, next⟩ List.mem_cons_self)
        (agrees ⟨config, transition, next⟩ List.mem_cons_self)
      have forward := taken.index_le within
      have ordered := (List.pairwise_cons.mp (later.cuts_ordered (taken.within within))).1
      have rest := inductionHypothesis (taken.within within)
        (fun move member => disciplined move (List.mem_cons_of_mem _ member))
        (fun move member => agrees move (List.mem_cons_of_mem _ member)) accepted
      -- A change of state adds to what is pending for the first block; a token closes that block.
      rcases Config.next?_cases taken.leads with ⟨state, decided, rfl⟩ | ⟨kind, decided, rfl⟩
      · rw [cuts_cons_of_not_emits (by simp [Move.emits, decided]), rest]
        simp only [collected]
        rw [blocks_extend forward ordered]
      · rw [cuts_cons_of_emits (by simp [Move.emits, decided]), rest]
        simp [blocks_cons, blocks_nil_eq, collected]

/-- A run that ends well stands at a clean end, or has consumed the end of the text. -/
theorem Run.ending {tokens : List (Token κ)}
    (run : automaton.Run config moves (.accepted tokens)) :
    (moves = [] ∧ config.isDone = true) ∨
      ∃ earlier move, moves = earlier ++ [move] ∧
        (move.consumesEnd = true ∨ move.target.isDone = true) := by
  generalize accepted : Outcome.accepted tokens = outcome at run
  induction run with
  | rest done => exact .inl ⟨rfl, done⟩
  | refuse => simp at accepted
  | close taken ended => exact .inr ⟨[], _, rfl, .inl ended⟩
  | @go config next transition moves outcome taken running later inductionHypothesis =>
      rcases inductionHypothesis accepted with ⟨rfl, done⟩ | ⟨earlier, move, rfl, ended⟩
      · exact .inr ⟨[], ⟨config, transition, next⟩, rfl, .inr done⟩
      · exact .inr ⟨⟨config, transition, next⟩ :: earlier, move, rfl, ended⟩

end Automaton

/-! ### Conservation -/

/-- Where each position is passed only once, it is kept if the move that passes it says so. -/
theorem keeps_index {moves : List (Move κ)} {move : Move κ}
    (once : ((moves.filter Move.passes).map Move.index).Nodup) (member : move ∈ moves)
    (passes : move.passes = true) : keeps moves move.index = move.transition.includes := by
  cases included : move.transition.includes with
  | true =>
      apply List.any_eq_true.mpr
      refine ⟨move, member, ?_⟩
      simp [passes, included]
  | false =>
      apply List.any_eq_false.mpr
      intro other otherMember
      by_cases candidate : other.passes = true ∧ other.index = move.index
      · have same : other = move :=
          List.inj_on_of_nodup_map once (List.mem_filter.mpr ⟨otherMember, candidate.1⟩)
            (List.mem_filter.mpr ⟨member, passes⟩) candidate.2
        simp [same, included]
      · simp only [not_and] at candidate
        cases otherPasses : other.passes with
        | false => simp
        | true => simp [candidate otherPasses]

/-- What becomes of the characters of a text in a run that ends well. -/
structure Conserves (automaton : Automaton κ) (text : Text) (moves : List (Move κ))
    (tokens : List (Token κ)) : Prop where
  /-- Every character is passed by exactly one move, from front to back. -/
  passed : (moves.filter Move.passes).map Move.index = List.range text.length
  /-- The cuts behind the tokens follow each other from the front of the text. -/
  ordered : (0 :: cuts moves).Pairwise (· ≤ ·)
  bounded : ∀ cut ∈ cuts moves, cut ≤ text.length
  /-- Each token consists of what is kept between two neighbouring cuts. -/
  values : tokens.map Token.value =
    List.zipWith (text.pick (keeps moves)) (0 :: cuts moves) (cuts moves)
  sublist : (tokens.flatMap Token.value).Sublist text
  /-- If no transition ignores its character, the tokens make up the text to the last cut. -/
  complete : automaton.All (fun transition =>
      ¬(transition.includes = false ∧ transition.rereads = false)) →
    tokens.flatMap Token.value = text.take (lastCut moves)
  /-- Something is dropped behind the last cut only if the run ends by changing the state. -/
  dropped : text.drop (lastCut moves) ≠ [] →
    ∃ earlier move state, moves = earlier ++ [move] ∧
      move.transition.disposition = some (.moveTo state) ∧
      (state = StateId.start ∧ move.target.cursor.atEnd = true ∨ move.consumesEnd = true)

namespace Automaton

variable {automaton : Automaton κ} {text : Text} {moves : List (Move κ)}
  {tokens : List (Token κ)}

theorem Run.passed_initial (run : automaton.Run (.initial text) moves (.accepted tokens)) :
    (moves.filter Move.passes).map Move.index = List.range text.length := by
  rw [run.passed_eq (Cursor.Within.ofText text), List.range_eq_range']
  rfl

theorem Run.cuts_bounded (run : automaton.Run (.initial text) moves (.accepted tokens)) :
    ∀ cut ∈ cuts moves, cut ≤ text.length := by
  intro cut member
  obtain ⟨move, moveMember, rfl⟩ := List.mem_map.mp member
  exact (run.within (Cursor.Within.ofText text) move (List.mem_filter.mp moveMember).1).1

theorem Run.lastCut_le (run : automaton.Run (.initial text) moves (.accepted tokens)) :
    lastCut moves ≤ text.length := by
  unfold lastCut
  cases last : (cuts moves).getLast? with
  | none => simp
  | some cut => exact run.cuts_bounded cut (List.mem_of_getLast? last)

theorem Run.values_initial (run : automaton.Run (.initial text) moves (.accepted tokens))
    (disciplined : ∀ move ∈ moves,
      move.transition.rereads = true → move.transition.includes = false) :
    tokens.map Token.value =
      List.zipWith (text.pick (keeps moves)) (0 :: cuts moves) (cuts moves) := by
  have once : ((moves.filter Move.passes).map Move.index).Nodup := by
    rw [run.passed_initial]
    exact List.nodup_range
  have values := run.values_eq (Cursor.Within.ofText text) disciplined
    fun move member passes => keeps_index once member passes
  rw [values, ← blocks_nil_eq]
  rfl

theorem Run.keeps_all (run : automaton.Run (.initial text) moves (.accepted tokens))
    (nothingIgnored : automaton.All fun transition =>
      ¬(transition.includes = false ∧ transition.rereads = false))
    {position : Nat} (inside : position < text.length) : keeps moves position = true := by
  have member : position ∈ (moves.filter Move.passes).map Move.index := by
    rw [run.passed_initial]
    exact List.mem_range.mpr inside
  obtain ⟨move, moveMember, rfl⟩ := List.mem_map.mp member
  obtain ⟨moveMember, passes⟩ := List.mem_filter.mp moveMember
  have notReread : move.transition.rereads = false := by
    simp only [Move.passes, Transition.passes, Bool.and_eq_true, Bool.not_eq_true'] at passes
    exact passes.1
  have included : move.transition.includes = true := by
    have allowed := nothingIgnored _ _ (mem_of_select? (run.takes move moveMember).selected)
    simpa [notReread] using allowed
  apply List.any_eq_true.mpr
  refine ⟨move, moveMember, ?_⟩
  simp [passes, included]

/-- A run whose last move finishes a token has its last cut at the end of the text. -/
theorem Run.dropped_cases (run : automaton.Run (.initial text) moves (.accepted tokens))
    (dropped : text.drop (lastCut moves) ≠ []) :
    ∃ earlier move state, moves = earlier ++ [move] ∧
      move.transition.disposition = some (.moveTo state) ∧
      (state = StateId.start ∧ move.target.cursor.atEnd = true ∨ move.consumesEnd = true) := by
  have within := Cursor.Within.ofText text
  rcases run.ending with ⟨rfl, done⟩ | ⟨earlier, move, rfl, ended⟩
  · simp only [Config.isDone, Bool.and_eq_true] at done
    have empty : text.length = 0 := (within.atEnd_iff.mp done.2).symm
    exact absurd (by simp [List.length_eq_zero_iff.mp empty]) dropped
  · have taken := run.takes move (by simp)
    have atEnd : move.target.cursor.atEnd = true := by
      rcases ended with consumed | done
      · exact taken.atEnd_of_consumesEnd consumed
      · simp only [Config.isDone, Bool.and_eq_true] at done
        exact done.2
    rcases Config.next?_cases taken.leads with ⟨state, decided, target⟩ | ⟨kind, decided, _⟩
    · refine ⟨earlier, move, state, rfl, decided, ?_⟩
      rcases ended with consumed | done
      · exact .inr consumed
      · simp only [target, Config.isDone, Bool.and_eq_true, beq_iff_eq] at done
        exact .inl ⟨done.1, atEnd⟩
    · have targetWithin := run.within within move (by simp)
      have cut : lastCut (earlier ++ [move]) = text.length := by
        simp [lastCut, cuts, Move.emits, decided, targetWithin.atEnd_iff.mp atEnd]
      rw [cut, List.drop_length] at dropped
      exact absurd rfl dropped

theorem Run.conserves (run : automaton.Run (.initial text) moves (.accepted tokens))
    (disciplined : ∀ move ∈ moves,
      move.transition.rereads = true → move.transition.includes = false) :
    Conserves automaton text moves tokens := by
  have ordered : (0 :: cuts moves).Pairwise (· ≤ ·) :=
    run.cuts_ordered (Cursor.Within.ofText text)
  have values := run.values_initial disciplined
  have joined : tokens.flatMap Token.value = text.pick (keeps moves) 0 (lastCut moves) := by
    rw [List.flatMap_def, values, text.flatten_zipWith_pick (keeps moves) ordered]
    rfl
  refine ⟨run.passed_initial, ordered, run.cuts_bounded, values, ?_, ?_, run.dropped_cases⟩
  · rw [joined]
    exact (text.pick_sublist_take (keeps moves) run.lastCut_le).trans (List.take_sublist _ _)
  · intro nothingIgnored
    rw [joined]
    apply text.pick_eq_take (keeps moves) run.lastCut_le
    intro position before
    exact run.keeps_all nothingIgnored (Nat.lt_of_lt_of_le before run.lastCut_le)

end Automaton

/-- When a drawn automaton accepts a text, its run accounts for every character: which move passes
it, whether it is kept, to which token it goes, and what is dropped in the end. -/
theorem tokenize_conserves_characters (calls : List (Call κ)) (text : Text)
    {tokens : List (Token κ)}
    (accepted : (Call.automaton calls).tokenize text = .accepted tokens) :
    ∃ moves, (Call.automaton calls).Run (.initial text) moves (.accepted tokens) ∧
      Conserves (Call.automaton calls) text moves tokens := by
  have ended : (Call.automaton calls).tokenize text ≠ .divergent := by simp [accepted]
  obtain ⟨moves, run⟩ := Automaton.exists_run_of_tokenize ended
  rw [accepted] at run
  refine ⟨moves, run, run.conserves ?_⟩
  intro move member
  exact Call.includes_of_rereads (run.takes move member).selected

/-- Words that end in a blank, which is left out; a word that the text breaks off is dropped. -/
def blankTerminatedWords : List (Call Nat) :=
  [.on 0 .letter, .moveToNew 0, .on 1 .letter, .stay 1, .on 1 (.oneOf [' ']), .ignore 2, .emit 2 7,
    .on 1 .endOfInput, .stay 3]

theorem blankTerminatedWords_conserve :
    (Call.automaton blankTerminatedWords).tokenize "ab cd".toList = .accepted [⟨7, "ab".toList⟩] ∧
      ∃ moves, (Call.automaton blankTerminatedWords).Run (.initial "ab cd".toList) moves
          (.accepted [⟨7, "ab".toList⟩]) ∧
        Conserves (Call.automaton blankTerminatedWords) "ab cd".toList moves
          [⟨7, "ab".toList⟩] :=
  ⟨by decide, tokenize_conserves_characters _ _ (by decide)⟩

end LexKit

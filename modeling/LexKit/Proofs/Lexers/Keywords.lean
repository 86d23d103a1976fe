import LexKit.Lexers.Json
import LexKit.Proofs.Automaton.Edits
import LexKit.Proofs.Lexers.Grammar
import Mathlib.Algebra.Ring.Nat

/-!
Lexers for keywords alone.

`Json.keyword` draws a chain of states that spells a word.  Chains that are drawn one after the
other on the start state lie one behind the other, so all rows of the automaton can be written down
from the words.  If no two words begin with the same character, then the automaton accepts exactly
the texts made of the words, and rejects any other text where it stops to be the front of such a
text.
-/

namespace LexKit

namespace Design

variable {κ : Type} {automaton : Automaton κ} {state : StateId}

theorem onEmit_eq (state : StateId) (charClass : CharClass) (kind : κ) (automaton : Automaton κ) :
    onEmit state charClass kind automaton = ((), automaton.addTransition state
      { on := charClass, disposition := some (.emit kind) }) :=
  congrArg (Prod.mk ()) (automaton.addTransition_modifyTransition_new state _ _)

theorem onMoveToNew_eq (inside : state < automaton.size) (charClass : CharClass) :
    onMoveToNew state charClass automaton = (automaton.size, (automaton.addTransition state
      { on := charClass, disposition := some (.moveTo automaton.size) }).addState) := by
  let opened := automaton.addTransition state { on := charClass }
  let location : Location := ⟨state, (automaton.state state).length⟩
  have sameSize : opened.size = automaton.size := automaton.size_addTransition _ _
  have settled : opened.settleNew location = (automaton.addTransition state
      { on := charClass, disposition := some (.moveTo automaton.size) }).addState := by
    rw [Automaton.settleNew, Automaton.settle, Automaton.modifyTransition,
      opened.addState_modifyState (sameSize ▸ inside), sameSize]
    exact congrArg Automaton.addState (automaton.addTransition_modifyTransition_new state _ _)
  show (opened.size, opened.settleNew location) = _
  rw [settled, sameSize]

end Design

namespace Json

/-! ### The rows of a chain -/

/-- The transition for a character of a word: it leads on, unless no character is left. -/
def link (next : StateId) (c : Char) (rest : Text) : Transition Kind where
  on := .oneOf [c]
  disposition := some (if rest.isEmpty then .emit .keyword else .moveTo next)

/-- Consecutive rows from the given number on that spell what is left of a word. -/
def chain : StateId → Text → List (State Kind)
  | _, [] => []
  | id, c :: rest => [link (id + 1) c rest] :: chain (id + 1) rest

/-- The transitions out of the start state: one for each word, to the front of its chain. -/
def entries : StateId → List Text → State Kind
  | _, [] => []
  | next, [] :: words => entries next words
  | next, (c :: rest) :: words => link next c rest :: entries (next + rest.length) words

def chains : StateId → List Text → List (State Kind)
  | _, [] => []
  | next, word :: words => chain next word.tail ++ chains (next + word.tail.length) words

/-- The automaton that knows the given words and nothing else. -/
def keywordAutomaton (words : List Text) : Automaton Kind :=
  Design.automaton (words.forM (keyword StateId.start))

variable {words : List Text} {word rest text front : Text} {c : Char} {next : StateId}
  {automaton : Automaton Kind} {before behind : List (State Kind)}

@[simp]
theorem length_chain (id : StateId) (word : Text) : (chain id word).length = word.length := by
  induction word generalizing id with
  | nil => rfl
  | cons c rest inductionHypothesis => rw [chain, List.length_cons, List.length_cons,
      inductionHypothesis]

theorem length_chains (next : StateId) (words : List Text) :
    (chains next words).length = (words.map fun word => word.length - 1).sum := by
  induction words generalizing next with
  | nil => rfl
  | cons word words inductionHypothesis =>
      rw [chains, List.length_append, length_chain, List.length_tail, inductionHypothesis,
        List.map_cons, List.sum_cons]

/-- A word adds one transition to the state where it begins and its chain behind all states. -/
theorem keyword_eq {state : StateId} (inside : state < automaton.size) (c : Char) (rest : Text) :
    keyword state (c :: rest) automaton = ((),
      ⟨(automaton.addTransition state (link automaton.size c rest)).states ++
        chain automaton.size rest⟩) := by
  induction rest generalizing automaton state c with
  | nil =>
      rw [keyword, Design.onEmit_eq, chain, List.append_nil]
      rfl
  | cons d rest inductionHypothesis =>
      let grown := automaton.addTransition state (link automaton.size c (d :: rest))
      have sameSize : grown.states.length = automaton.size := automaton.size_addTransition _ _
      have onward : automaton.size < grown.addState.size := by
        rw [Automaton.size_addState, Automaton.size_addTransition]
        exact Nat.lt_succ_self _
      have newRow : ∀ transition, (grown.addState.addTransition automaton.size transition).states =
          grown.states ++ [[transition]] := by
        intro transition
        have placed := modify_concat_length grown.states (· ++ [transition]) []
        rwa [sameSize] at placed
      have drawn : keyword state (c :: d :: rest) automaton =
          keyword automaton.size (d :: rest) grown.addState := by
        rw [keyword]
        · show (let (next, drawn) := Design.onMoveToNew state (.oneOf [c]) automaton
            keyword next (d :: rest) drawn) = _
          rw [Design.onMoveToNew_eq inside]
          rfl
        · simp
      rw [drawn, inductionHypothesis onward, newRow, Automaton.size_addState,
        Automaton.size_addTransition, chain, List.append_assoc]
      rfl

theorem forM_keyword_eq (nonempty : ∀ word ∈ words, word ≠ []) (row : State Kind)
    (rows : List (State Kind)) :
    words.forM (keyword StateId.start) ⟨row :: rows⟩ = ((),
      ⟨(row ++ entries (rows.length + 1) words) :: (rows ++ chains (rows.length + 1) words)⟩) := by
  induction words generalizing row rows with
  | nil =>
      rw [entries, chains, List.append_nil, List.append_nil]
      rfl
  | cons word words inductionHypothesis =>
      obtain ⟨first, later⟩ := List.forall_mem_cons.mp nonempty
      obtain ⟨c, rest, rfl⟩ := List.exists_cons_of_ne_nil first
      have start : StateId.start < (⟨row :: rows⟩ : Automaton Kind).size := Nat.succ_pos _
      have drawn : ((c :: rest) :: words).forM (keyword StateId.start) ⟨row :: rows⟩ =
          words.forM (keyword StateId.start) (keyword StateId.start (c :: rest) ⟨row :: rows⟩).2 :=
        rfl
      rw [drawn, keyword_eq start]
      have continued := inductionHypothesis later
        (row ++ [link (rows.length + 1) c rest]) (rows ++ chain (rows.length + 1) rest)
      rw [List.length_append, length_chain, Nat.add_right_comm] at continued
      rw [entries, chains, List.tail_cons, ← List.append_assoc, List.append_cons row]
      exact continued

theorem keywordAutomaton_states (nonempty : ∀ word ∈ words, word ≠ []) :
    (keywordAutomaton words).states = entries 1 words :: chains 1 words :=
  congrArg (fun drawn => drawn.2.states) (forM_keyword_eq nonempty [] [])

theorem size_keywordAutomaton (nonempty : ∀ word ∈ words, word ≠ []) :
    (keywordAutomaton words).size = 1 + (words.map fun word => word.length - 1).sum := by
  rw [Automaton.size, keywordAutomaton_states nonempty, List.length_cons, length_chains,
    Nat.add_comm]

/-! ### Targets -/

theorem target_link {next target : Nat} (inToken : 0 < next)
    (leads : target ∈ (link next c rest).target?) : target < next + rest.length := by
  cases rest with
  | nil =>
      obtain rfl : StateId.start = target := Option.some.inj leads
      exact inToken
  | cons d rest =>
      obtain rfl : next = target := Option.some.inj leads
      exact Nat.lt_add_of_pos_right (Nat.succ_pos _)

theorem target_chain {id target : Nat} {row : State Kind} {transition : Transition Kind}
    (present : row ∈ chain id word) (inRow : transition ∈ row)
    (leads : target ∈ transition.target?) : target < id + word.length := by
  induction word generalizing id with
  | nil => simp [chain] at present
  | cons c rest inductionHypothesis =>
      rw [List.length_cons, Nat.add_comm rest.length, ← Nat.add_assoc]
      rcases List.mem_cons.mp present with rfl | later
      · rw [List.mem_singleton.mp inRow] at leads
        exact target_link (Nat.succ_pos id) leads
      · exact inductionHypothesis later

theorem target_entries {next target : Nat} {transition : Transition Kind} (inToken : 0 < next)
    (present : transition ∈ entries next words) (leads : target ∈ transition.target?) :
    target < next + (chains next words).length := by
  induction words generalizing next with
  | nil => simp [entries] at present
  | cons word words inductionHypothesis =>
      rw [chains, List.length_append, length_chain, ← Nat.add_assoc]
      cases word with
      | nil => exact inductionHypothesis inToken present
      | cons c rest =>
          rcases List.mem_cons.mp present with rfl | later
          · exact Nat.lt_add_right _ (target_link inToken leads)
          · exact inductionHypothesis (Nat.add_pos_left inToken _) later

theorem target_chains {next target : Nat} {row : State Kind} {transition : Transition Kind}
    (present : row ∈ chains next words) (inRow : transition ∈ row)
    (leads : target ∈ transition.target?) : target < next + (chains next words).length := by
  induction words generalizing next with
  | nil => simp [chains] at present
  | cons word words inductionHypothesis =>
      rw [chains, List.length_append, length_chain, ← Nat.add_assoc]
      rcases List.mem_append.mp present with own | later
      · exact Nat.lt_add_right _ (target_chain own inRow leads)
      · exact inductionHypothesis later

theorem keywordAutomaton_wellFormed (nonempty : ∀ word ∈ words, word ≠ []) :
    (keywordAutomaton words).WellFormed := by
  have size : (keywordAutomaton words).size = 1 + (chains 1 words).length := by
    rw [size_keywordAutomaton nonempty, length_chains]
  apply Automaton.wellFormed_of_targets
  · rw [size]
    exact Nat.lt_of_lt_of_le Nat.zero_lt_one (Nat.le_add_right 1 _)
  · intro row present transition inRow target leads
    rw [keywordAutomaton_states nonempty] at present
    rw [size]
    rcases List.mem_cons.mp present with rfl | later
    · exact target_entries Nat.zero_lt_one inRow leads
    · exact target_chains later inRow leads

/-! ### Reading a word -/

theorem spells_of_chain (laidOut : automaton.states = before ++ chain before.length word ++ behind)
    (inToken : before ≠ []) (nonempty : word ≠ []) :
    automaton.Spells .keyword before.length word := by
  induction word generalizing before with
  | nil => exact absurd rfl nonempty
  | cons c rest inductionHypothesis =>
      have notStart : before.length ≠ StateId.start := by
        intro none
        exact inToken (List.length_eq_zero_iff.mp none)
      have only : automaton.state before.length = [link (before.length + 1) c rest] := by
        apply automaton.state_of_getElem?
        rw [laidOut, chain, List.append_assoc, List.cons_append]
        simp
      cases rest with
      | nil => exact .last notStart only
      | cons d rest =>
          refine .next notStart only ?_
          have later := @inductionHypothesis (before ++ [[link (before.length + 1) c (d :: rest)]])
            (by rw [laidOut, chain]; simp) (by simp) (List.cons_ne_nil _ _)
          rwa [List.length_append, List.length_singleton] at later

theorem handles_link {input : Option Char} : (link next c rest).on.handles input ↔ input = some c :=
  CharClass.handles_singleton

theorem action_link (next : StateId) (c : Char) (rest : Text) :
    (link next c rest).action =
      .keep (if rest.isEmpty then .emit .keyword else .moveTo next) := rfl

theorem firstAction?_entries_of_strange (strange : ∀ word ∈ words, word.head? ≠ some c) :
    firstAction? (entries next words) (some c) = none := by
  induction words generalizing next with
  | nil => rfl
  | cons word words inductionHypothesis =>
      obtain ⟨first, later⟩ := List.forall_mem_cons.mp strange
      cases word with
      | nil => exact inductionHypothesis later
      | cons d rest =>
          have unhandled : ¬(link next d rest).on.handles (some c) := by
            rw [handles_link]
            exact fun same => first same.symm
          rw [entries, firstAction?, if_neg unhandled]
          exact inductionHypothesis later

/-- The start state leads from the first character of a word into the chain of the word. -/
theorem exists_entry (laidOut : automaton.states = before ++ chains before.length words)
    (inToken : before ≠ []) (apart : words.Pairwise fun left right => left.head? ≠ right.head?)
    (member : c :: rest ∈ words) :
    ∃ next, firstAction? (entries before.length words) (some c) =
        some (.keep (if rest.isEmpty then .emit .keyword else .moveTo next)) ∧
      (rest ≠ [] → automaton.Spells .keyword next rest) := by
  induction words generalizing before with
  | nil => simp at member
  | cons word words inductionHypothesis =>
      obtain ⟨different, laterApart⟩ := List.pairwise_cons.mp apart
      rw [chains, ← List.append_assoc] at laidOut
      rcases List.mem_cons.mp member with rfl | later
      · refine ⟨before.length, ?_, ?_⟩
        · rw [entries, firstAction?, if_pos (handles_link.mpr rfl), action_link]
        · exact spells_of_chain laidOut inToken
      · have shifted := @inductionHypothesis (before ++ chain before.length word.tail)
          (by rw [laidOut, List.length_append, length_chain]) (by simp [inToken]) laterApart later
        rw [List.length_append, length_chain] at shifted
        cases word with
        | nil => exact shifted
        | cons d more =>
            have unhandled : ¬(link before.length d more).on.handles (some c) := by
              rw [handles_link]
              intro same
              exact different _ later same.symm
            rw [entries, firstAction?, if_neg unhandled]
            exact shifted

/-! ### Fronts of texts made of words -/

/-- The front of a text that is made of words. -/
def BeginsWords (words : List Text) (front : Text) : Prop :=
  ∃ sequence : List Text, (∀ word ∈ sequence, word ∈ words) ∧ front <+: sequence.flatten

/-- What reading one token off a text comes to: a word, or a fault behind the longest front that
still begins a text made of words. -/
def FollowsWords (words : List Text) (text : Text) : Reading Kind → Prop
  | .token token _ => token.kind = .keyword ∧ token.value ∈ words
  | .fault cause _ rest => ∃ front, text = front ++ rest ∧ cause = .unmatched rest.head? ∧
      Text.IsLongestFront (BeginsWords words) text front

theorem beginsWords_of_prefix (member : word ∈ words) (begins : front <+: word) :
    BeginsWords words front :=
  ⟨[word], by simpa using member, by simpa using begins⟩

theorem BeginsWords.append (begins : BeginsWords words front) (member : word ∈ words) :
    BeginsWords words (word ++ front) := by
  obtain ⟨sequence, all, isFront⟩ := begins
  refine ⟨word :: sequence, List.forall_mem_cons.mpr ⟨member, all⟩, ?_⟩
  rw [List.flatten_cons]
  exact (List.prefix_append_right_inj word).mpr isFront

theorem eq_of_head?_eq {other : Text}
    (apart : words.Pairwise fun left right => left.head? ≠ right.head?) (member : word ∈ words)
    (otherMember : other ∈ words) (same : word.head? = other.head?) : word = other := by
  by_contra different
  have symmetric : Std.Symm fun left right : Text => left.head? ≠ right.head? :=
    ⟨fun _ _ => Ne.symm⟩
  exact apart.forall member otherMember different same

section Fronts

variable (nonempty : ∀ word ∈ words, word ≠ [])

include nonempty

/-- What begins a text made of words begins with the first character of a word. -/
theorem BeginsWords.exists_word (begins : BeginsWords words (c :: front)) :
    ∃ word ∈ words, word.head? = some c ∧
      ∃ sequence : List Text, (∀ word ∈ sequence, word ∈ words) ∧
        c :: front <+: word ++ sequence.flatten := by
  obtain ⟨sequence, all, isFront⟩ := begins
  cases sequence with
  | nil => simp at isFront
  | cons word sequence =>
      obtain ⟨member, later⟩ := List.forall_mem_cons.mp all
      refine ⟨word, member, ?_, sequence, later, isFront⟩
      obtain ⟨rest, whole⟩ := isFront
      have heads := congrArg List.head? whole
      rw [List.flatten_cons, List.head?_append_of_ne_nil _ (nonempty word member)] at heads
      exact heads.symm

theorem isLongestFront_of_strange (strange : ∀ word ∈ words, word.head? ≠ some c) :
    Text.IsLongestFront (BeginsWords words) (c :: rest) [] where
  holds := ⟨[], by simp, by simp⟩
  isFront := List.nil_prefix
  longest := by
    intro other begins isFront
    cases other with
    | nil => exact Nat.le_refl _
    | cons d other =>
        obtain ⟨rfl, _⟩ := List.cons_prefix_cons.mp isFront
        obtain ⟨word, member, heads, _⟩ := begins.exists_word nonempty
        exact absurd heads (strange word member)

variable (apart : words.Pairwise fun left right => left.head? ≠ right.head?)

include apart

/-- The first character of a text decides with which word its fronts can begin. -/
theorem BeginsWords.exists_sequence (begins : BeginsWords words front) (isFront : front <+: text)
    (member : word ∈ words) (sameHead : word.head? = text.head?) :
    ∃ sequence : List Text, (∀ word ∈ sequence, word ∈ words) ∧
      front <+: word ++ sequence.flatten := by
  cases front with
  | nil => exact ⟨[], by simp, List.nil_prefix⟩
  | cons c front =>
      obtain ⟨other, otherMember, heads, sequence, all, otherFront⟩ := begins.exists_word nonempty
      obtain ⟨left, rfl⟩ := isFront
      rw [eq_of_head?_eq apart member otherMember (sameHead.trans heads.symm)]
      exact ⟨sequence, all, otherFront⟩

theorem isLongestFront_of_apart {spelled missing : Text}
    (member : c :: (spelled ++ missing) ∈ words) (unfinished : missing ≠ [])
    (comeApart : rest.head? ≠ missing.head?) :
    Text.IsLongestFront (BeginsWords words) (c :: (spelled ++ rest)) (c :: spelled) where
  holds := beginsWords_of_prefix member (List.prefix_append (c :: spelled) missing)
  isFront := List.prefix_append (c :: spelled) rest
  longest := by
    intro other begins isFront
    obtain ⟨sequence, _, otherFront⟩ := begins.exists_sequence nonempty apart isFront member rfl
    rw [← List.cons_append, List.append_assoc] at otherFront
    apply Text.length_le_of_apart _ isFront otherFront
    rwa [List.head?_append_of_ne_nil _ unfinished]

theorem isLongestFront_append (longest : Text.IsLongestFront (BeginsWords words) rest front)
    (member : word ∈ words) :
    Text.IsLongestFront (BeginsWords words) (word ++ rest) (word ++ front) where
  holds := longest.holds.append member
  isFront := (List.prefix_append_right_inj word).mpr longest.isFront
  longest := by
    intro other begins isFront
    have sameHead : word.head? = (word ++ rest).head? := by
      rw [List.head?_append_of_ne_nil _ (nonempty word member)]
    obtain ⟨sequence, all, otherFront⟩ :=
      begins.exists_sequence nonempty apart isFront member sameHead
    rw [List.length_append]
    by_cases short : other.length ≤ word.length
    · omega
    · obtain ⟨more, rfl⟩ := List.prefix_of_prefix_length_le (List.prefix_append word rest) isFront
        (Nat.le_of_not_le short)
      rw [List.prefix_append_right_inj] at isFront otherFront
      have bounded := longest.longest more ⟨sequence, all, otherFront⟩ isFront
      rw [List.length_append]
      omega

end Fronts

section Reading

variable (nonempty : ∀ word ∈ words, word ≠ [])
  (apart : words.Pairwise fun left right => left.head? ≠ right.head?)

include nonempty

theorem action?_start_eq (input : Option Char) :
    (keywordAutomaton words).action? StateId.start input =
      firstAction? (entries 1 words) input := by
  rw [Automaton.action?_eq_firstAction?, Automaton.state, keywordAutomaton_states nonempty]
  rfl

include apart

theorem exists_action?_of_mem (member : c :: rest ∈ words) :
    ∃ next, (keywordAutomaton words).action? StateId.start (some c) =
        some (.keep (if rest.isEmpty then .emit .keyword else .moveTo next)) ∧
      (rest ≠ [] → (keywordAutomaton words).Spells .keyword next rest) := by
  have laidOut : (keywordAutomaton words).states = [entries 1 words] ++ chains 1 words :=
    keywordAutomaton_states nonempty
  obtain ⟨next, acts, spells⟩ := exists_entry laidOut (List.cons_ne_nil _ _) apart member
  exact ⟨next, by rw [action?_start_eq nonempty]; exact acts, spells⟩

theorem reads_word (member : word ∈ words) (rest : Text) :
    (keywordAutomaton words).Reads StateId.start [] (word ++ rest)
      (.token ⟨.keyword, word⟩ rest) := by
  obtain ⟨c, more, rfl⟩ := List.exists_cons_of_ne_nil (nonempty word member)
  obtain ⟨next, acts, spells⟩ := exists_action?_of_mem nonempty apart member
  cases more with
  | nil => exact .finish acts
  | cons d more => exact .keep acts ((spells (List.cons_ne_nil _ _)).reads rest)

/-- A text begins with a word, or the reading stops behind the longest front of it with which a text
made of words begins. -/
theorem exists_reading_of_words (inText : text ≠ []) :
    ∃ reading, (keywordAutomaton words).Reads StateId.start [] text reading ∧
      FollowsWords words text reading := by
  obtain ⟨c, ahead, rfl⟩ := List.exists_cons_of_ne_nil inText
  by_cases known : ∃ rest, c :: rest ∈ words
  · obtain ⟨rest, member⟩ := known
    obtain ⟨next, acts, spells⟩ := exists_action?_of_mem nonempty apart member
    by_cases single : rest = []
    · subst single
      exact ⟨_, reads_word nonempty apart member ahead, rfl, member⟩
    · rcases (spells single).reads_cases [c] ahead with
        ⟨left, rfl⟩ | ⟨spelled, missing, left, stop, rfl, rfl, unfinished, comeApart, reads⟩
      · exact ⟨_, reads_word nonempty apart member left, rfl, member⟩
      · have moves : (keywordAutomaton words).action? StateId.start (some c) =
            some (.keep (.moveTo next)) := by
          rw [acts, if_neg (by simp [single])]
        refine ⟨_, .keep moves reads, c :: spelled, rfl, rfl, ?_⟩
        exact isLongestFront_of_apart nonempty apart member unfinished comeApart
  · have strange : ∀ word ∈ words, word.head? ≠ some c := by
      intro word member begins
      obtain ⟨rest, rfl⟩ := List.head?_eq_some_iff.mp begins
      exact known ⟨rest, member⟩
    have unmatched : (keywordAutomaton words).action? StateId.start (some c) = none := by
      rw [action?_start_eq nonempty, firstAction?_entries_of_strange strange]
    refine ⟨_, .unmatched (.inr inText) unmatched, [], rfl, rfl, ?_⟩
    exact isLongestFront_of_strange nonempty strange

theorem readsTokens_of_words {tokens : List (Token Kind)}
    (all : ∀ token ∈ tokens, token.kind = .keyword ∧ token.value ∈ words) :
    (keywordAutomaton words).ReadsTokens (tokens.flatMap Token.value) tokens [] := by
  induction tokens with
  | nil => exact .none []
  | cons token tokens inductionHypothesis =>
      obtain ⟨⟨isKeyword, member⟩, later⟩ := List.forall_mem_cons.mp all
      have reads := reads_word nonempty apart member (tokens.flatMap Token.value)
      rw [← isKeyword] at reads
      exact .token reads (inductionHypothesis later)

theorem isLongestFront_of_words {tokens : List (Token Kind)}
    (all : ∀ token ∈ tokens, token.value ∈ words)
    (longest : Text.IsLongestFront (BeginsWords words) rest front) :
    Text.IsLongestFront (BeginsWords words) (tokens.flatMap Token.value ++ rest)
      (tokens.flatMap Token.value ++ front) := by
  induction tokens with
  | nil => exact longest
  | cons token tokens inductionHypothesis =>
      obtain ⟨member, later⟩ := List.forall_mem_cons.mp all
      rw [List.flatMap_cons, List.append_assoc, List.append_assoc]
      exact isLongestFront_append nonempty apart (inductionHypothesis later) member

/-- A text is made of words, or it is rejected behind its longest front that begins such a text. -/
theorem tokenize_cases (text : Text) :
    (∃ tokens : List (Token Kind), (∀ token ∈ tokens, token.kind = .keyword ∧ token.value ∈ words) ∧
        tokens.flatMap Token.value = text ∧
        (keywordAutomaton words).tokenize text = .accepted tokens) ∨
      ∃ fault front, (keywordAutomaton words).tokenize text = .rejected fault ∧
        fault.cause = .unmatched text[front.length]? ∧ fault.offset = front.length ∧
        Text.IsLongestFront (BeginsWords words) text front := by
  have wellFormed := keywordAutomaton_wellFormed nonempty
  have advances : ∀ text token rest, FollowsWords words text (.token token rest) →
      token.value ≠ [] := fun _ token _ follows => nonempty token.value follows.2
  obtain ⟨tokens, left, reads, all, ends⟩ := Automaton.exists_readsTokens
    (fun _ => exists_reading_of_words nonempty apart) advances text
  have isWord : ∀ token ∈ tokens, token.kind = .keyword ∧ token.value ∈ words := by
    intro token present
    obtain ⟨_, _, follows⟩ := all token present
    exact follows
  have whole := reads.text_eq
  rcases ends with rfl | ⟨cause, state, rest, broken, passed, rfl, rfl, longest⟩
  · refine .inl ⟨tokens, isWord, ?_, reads.tokenize_eq wellFormed⟩
    rw [whole, List.append_nil]
  · obtain ⟨rejected, _⟩ := reads.tokenize_fault broken wellFormed
    refine .inr ⟨_, tokens.flatMap Token.value ++ passed, rejected, ?_, ?_, ?_⟩
    · rw [whole, ← List.append_assoc, List.getElem?_append_right (Nat.le_refl _), Nat.sub_self,
        List.head?_eq_getElem?]
    · simp only [whole, List.length_append]
      omega
    · rw [whole]
      exact isLongestFront_of_words nonempty apart (fun token present => (isWord token present).2)
        longest

end Reading

/-- The lexer for words with different first characters: how many states it has, that it accepts the
texts made of the words, word by word, and that it rejects any other text behind the longest front
that begins a text made of the words. -/
theorem keywordAutomaton_tokenizes (words : List Text) (nonempty : ∀ word ∈ words, word ≠ [])
    (apart : words.Pairwise fun left right => left.head? ≠ right.head?) :
    (keywordAutomaton words).size = 1 + (words.map fun word => word.length - 1).sum ∧
      (∀ text tokens, (keywordAutomaton words).tokenize text = .accepted tokens ↔
        (∀ token ∈ tokens, token.kind = .keyword ∧ token.value ∈ words) ∧
          tokens.flatMap Token.value = text) ∧
      ∀ text, (∀ tokens, (keywordAutomaton words).tokenize text ≠ .accepted tokens) →
        ∃ fault front, (keywordAutomaton words).tokenize text = .rejected fault ∧
          fault.cause = .unmatched text[front.length]? ∧ fault.offset = front.length ∧
          Text.IsLongestFront (BeginsWords words) text front := by
  refine ⟨size_keywordAutomaton nonempty, ?_, ?_⟩
  · intro text tokens
    constructor
    · intro accepted
      rcases tokenize_cases nonempty apart text with
        ⟨found, all, joined, same⟩ | ⟨_, _, rejected, _⟩
      · rw [accepted, Outcome.accepted.injEq] at same
        rw [same]
        exact ⟨all, joined⟩
      · simp [rejected] at accepted
    · rintro ⟨all, rfl⟩
      have reads := readsTokens_of_words nonempty apart all
      exact reads.tokenize_eq (keywordAutomaton_wellFormed nonempty)
  · intro text notAccepted
    rcases tokenize_cases nonempty apart text with ⟨found, _, _, accepted⟩ | rejected
    · exact absurd accepted (notAccepted found)
    · exact rejected

theorem letAndAt_tokenize :
    (keywordAutomaton ["let".toList, "@".toList]).size = 3 ∧
      (keywordAutomaton ["let".toList, "@".toList]).tokenize "@let".toList =
        .accepted [⟨.keyword, "@".toList⟩, ⟨.keyword, "let".toList⟩] ∧
      ∃ fault front, (keywordAutomaton ["let".toList, "@".toList]).tokenize "@le@".toList =
          .rejected fault ∧
        fault.cause = .unmatched "@le@".toList[front.length]? ∧ fault.offset = front.length ∧
        Text.IsLongestFront (BeginsWords ["let".toList, "@".toList]) "@le@".toList front := by
  obtain ⟨size, accepts, rejects⟩ :=
    keywordAutomaton_tokenizes ["let".toList, "@".toList] (by decide) (by decide)
  refine ⟨size, (accepts _ _).mpr (by decide), rejects _ ?_⟩
  have rejected : (keywordAutomaton ["let".toList, "@".toList]).tokenize "@le@".toList =
      .rejected ⟨.unmatched (some '@'), ⟨1, 3⟩, 3, 2⟩ := by decide +kernel
  intro tokens accepted
  rw [rejected] at accepted
  cases accepted

end Json

end LexKit

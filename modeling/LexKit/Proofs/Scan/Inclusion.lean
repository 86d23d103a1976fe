import LexKit.Proofs.Scan.Divergence
import Mathlib.Data.List.Forall2

/-!
Keeping characters or leaving them out changes the values of tokens and nothing else.

A run never looks at what it has collected.  Two automata that differ only in which transitions keep
their character pass the same states and places, round by round, and finish tokens of the same
kinds; what these tokens hold is related as far as what single transitions collect is.
-/

namespace LexKit

variable {κ : Type}

namespace Transition

/-- Two transitions that differ at most in whether they keep their character. -/
structure AlikeButIncludes (left right : Transition κ) : Prop where
  on_eq : left.on = right.on
  rereads_eq : left.rereads = right.rereads
  disposition_eq : left.disposition = right.disposition

/-- The second transition keeps its character if the first one does. -/
def IncludesWithin (left right : Transition κ) : Prop :=
  left.includes = true → right.includes = true

instance [DecidableEq κ] (left right : Transition κ) : Decidable (left.AlikeButIncludes right) :=
  decidable_of_iff
    (left.on = right.on ∧ left.rereads = right.rereads ∧ left.disposition = right.disposition)
    ⟨fun same => ⟨same.1, same.2.1, same.2.2⟩,
      fun alike => ⟨alike.on_eq, alike.rereads_eq, alike.disposition_eq⟩⟩

instance (left right : Transition κ) : Decidable (left.IncludesWithin right) :=
  inferInstanceAs (Decidable (_ → _))

theorem AlikeButIncludes.move_eq {left right : Transition κ} (alike : left.AlikeButIncludes right)
    (cursor : Cursor) : left.move cursor = right.move cursor := by
  rw [move, move, alike.rereads_eq]

theorem toList_collect (transition : Transition κ) (input : Option Char) (pending : Array Char) :
    (transition.collect input pending).toList =
      pending.toList ++ if transition.includes then input.toList else [] := by
  unfold collect
  cases transition.includes <;> cases input <;> simp

/-- Related transitions go the same way, and collect related texts if they have collected related
texts before. -/
structure CollectAlike (related : Transition κ → Transition κ → Prop)
    (values : Text → Text → Prop) : Prop where
  alike : ∀ {left right}, related left right → left.AlikeButIncludes right
  values_nil : values [] []
  values_collect : ∀ {left right}, related left right → ∀ input {pending other : Array Char},
    values pending.toList other.toList →
      values (left.collect input pending).toList (right.collect input other).toList

theorem collectAlike_any :
    CollectAlike (AlikeButIncludes : Transition κ → Transition κ → Prop) fun _ _ => True where
  alike alike := alike
  values_nil := trivial
  values_collect _ _ _ _ _ := trivial

/-- What is collected by fewer transitions is part of what is collected by more. -/
theorem collectAlike_sublist :
    CollectAlike (fun left right : Transition κ =>
      left.AlikeButIncludes right ∧ left.IncludesWithin right) List.Sublist where
  alike related := related.1
  values_nil := .slnil
  values_collect := by
    intro left right related input pending other sublist
    rw [toList_collect, toList_collect]
    apply sublist.append
    split_ifs with leftIncludes rightIncludes
    · exact .refl _
    · exact absurd (related.2 leftIncludes) rightIncludes
    · exact List.nil_sublist _
    · exact .refl _

end Transition

namespace Automaton

/-- Two automata of the same shape, with related transitions at the same places. -/
def Pointwise (related : Transition κ → Transition κ → Prop) (left right : Automaton κ) : Prop :=
  List.Forall₂ (List.Forall₂ related) left.states right.states

instance (related : Transition κ → Transition κ → Prop) [DecidableRel related]
    (left right : Automaton κ) : Decidable (left.Pointwise related right) :=
  inferInstanceAs (Decidable (List.Forall₂ _ _ _))

namespace Pointwise

variable {related other : Transition κ → Transition κ → Prop} {left right : Automaton κ}

theorem and (first : left.Pointwise related right) (second : left.Pointwise other right) :
    left.Pointwise (fun left right => related left right ∧ other left right) right := by
  obtain ⟨sameSize, rows⟩ := List.forall₂_iff_get.mp first
  have otherRows := (List.forall₂_iff_get.mp second).2
  refine List.forall₂_iff_get.mpr ⟨sameSize, fun id inside otherInside => ?_⟩
  obtain ⟨sameLength, here⟩ := List.forall₂_iff_get.mp (rows id inside otherInside)
  have otherHere := (List.forall₂_iff_get.mp (otherRows id inside otherInside)).2
  exact List.forall₂_iff_get.mpr ⟨sameLength, fun index inRow inOther =>
    ⟨here index inRow inOther, otherHere index inRow inOther⟩⟩

theorem size_eq (pointwise : left.Pointwise related right) : left.size = right.size :=
  List.Forall₂.length_eq pointwise

theorem state (pointwise : left.Pointwise related right) (id : StateId) :
    List.Forall₂ related (left.state id) (right.state id) := by
  obtain ⟨leftRows⟩ := left
  obtain ⟨rightRows⟩ := right
  change List.Forall₂ related (leftRows.getD id []) (rightRows.getD id [])
  change List.Forall₂ (List.Forall₂ related) leftRows rightRows at pointwise
  induction pointwise generalizing id with
  | nil => exact .nil
  | cons here _ inductionHypothesis =>
      cases id with
      | zero => exact here
      | succ id => exact inductionHypothesis id

/-- Related transitions are selected, or none on both sides. -/
theorem select? (pointwise : left.Pointwise related right)
    (sameInputs : ∀ {left right}, related left right → left.on = right.on) (id : StateId)
    (input : Option Char) :
    Option.Rel related (left.select? id input) (right.select? id input) := by
  have rows := pointwise.state id
  unfold Automaton.select?
  generalize left.state id = leftRow at rows
  generalize right.state id = rightRow at rows
  induction rows with
  | nil => exact .none
  | cons here _ inductionHypothesis =>
      rw [List.find?_cons, List.find?_cons, sameInputs here]
      split
      · exact .some here
      · exact inductionHypothesis

end Pointwise

end Automaton

/-! ### Two runs -/

/-- Two tokens of one kind with related values. -/
structure Token.Parallel (values : Text → Text → Prop) (left right : Token κ) : Prop where
  kind_eq : left.kind = right.kind
  value : values left.value right.value

theorem Token.map_kind_eq {values : Text → Text → Prop} {tokens others : List (Token κ)}
    (parallel : List.Forall₂ (Token.Parallel values) tokens others) :
    tokens.map Token.kind = others.map Token.kind := by
  induction parallel with
  | nil => rfl
  | cons here _ inductionHypothesis =>
      rw [List.map_cons, List.map_cons, here.kind_eq, inductionHypothesis]

/-- Two configurations at the same place, with related texts collected and in their tokens. -/
structure Config.Parallel (values : Text → Text → Prop) (left right : Config κ) : Prop where
  state_eq : left.state = right.state
  cursor_eq : left.cursor = right.cursor
  pending : values left.pending.toList right.pending.toList
  tokens : List.Forall₂ (Token.Parallel values) left.tokens.toList right.tokens.toList

namespace Config.Parallel

variable {related : Transition κ → Transition κ → Prop} {values : Text → Text → Prop}
  {left right : Config κ} {taken other : Transition κ}

theorem initial (collect : Transition.CollectAlike related values) (text : Text) :
    Parallel values (.initial text : Config κ) (.initial text) :=
  ⟨rfl, rfl, collect.values_nil, .nil⟩

theorem fault_eq (parallel : Parallel values left right) (cause : FaultCause) :
    left.fault cause = right.fault cause := by
  rw [fault, fault, parallel.state_eq, parallel.cursor_eq]

theorem consume (parallel : Parallel values left right)
    (collect : Transition.CollectAlike related values) (alike : related taken other) :
    Parallel values (left.consume taken) (right.consume other) := by
  obtain ⟨state, cursor, pending, tokens⟩ := left
  obtain ⟨_, _, otherPending, otherTokens⟩ := right
  obtain ⟨rfl, rfl, collected, finished⟩ := parallel
  exact ⟨rfl, (collect.alike alike).move_eq cursor,
    collect.values_collect alike cursor.peek? collected, finished⟩

theorem enter (parallel : Parallel values left right) (state : StateId) :
    Parallel values (left.enter state) (right.enter state) :=
  ⟨rfl, parallel.cursor_eq, parallel.pending, parallel.tokens⟩

theorem finish (parallel : Parallel values left right)
    (collect : Transition.CollectAlike related values) (kind : κ) :
    Parallel values (left.finish kind) (right.finish kind) := by
  obtain ⟨state, cursor, pending, tokens⟩ := left
  obtain ⟨_, _, otherPending, otherTokens⟩ := right
  obtain ⟨rfl, rfl, collected, finished⟩ := parallel
  refine ⟨rfl, rfl, collect.values_nil, ?_⟩
  simp only [Config.finish, Array.toList_push]
  exact List.rel_append finished (.cons ⟨rfl, collected⟩ .nil)

theorem follow (parallel : Parallel values left right)
    (collect : Transition.CollectAlike related values) (alike : related taken other) :
    Progress.Related (Parallel values) (List.Forall₂ (Token.Parallel values)) Eq
      (left.follow taken) (right.follow other) := by
  have consumed := parallel.consume collect alike
  obtain ⟨_, sameRereads, sameDisposition⟩ := collect.alike alike
  unfold Config.follow
  rw [parallel.cursor_eq, sameRereads, sameDisposition]
  cases other.disposition with
  | none => exact .failed (parallel.fault_eq _)
  | some disposition =>
      cases disposition with
      | moveTo state =>
          have entered := consumed.enter state
          exact Config.proceed_related _ entered entered.tokens
      | emit kind =>
          have finished := consumed.finish collect kind
          exact Config.proceed_related _ finished finished.tokens
      | fail message => exact .failed (parallel.fault_eq _)

end Config.Parallel

namespace Automaton

variable {related : Transition κ → Transition κ → Prop} {values : Text → Text → Prop}
  {left right : Automaton κ}

theorem Pointwise.step (pointwise : left.Pointwise related right)
    (collect : Transition.CollectAlike related values) (config other : Config κ)
    (parallel : config.Parallel values other) :
    Progress.Related (Config.Parallel values) (List.Forall₂ (Token.Parallel values)) Eq
      (left.step config) (right.step other) := by
  have sameInput : config.cursor.peek? = other.cursor.peek? := by rw [parallel.cursor_eq]
  have alikeDone := Config.isDone_alike parallel.state_eq sameInput
  have selected := pointwise.select? (fun alike => (collect.alike alike).on_eq) config.state
    config.cursor.peek?
  unfold Automaton.step
  rw [alikeDone]
  split_ifs
  · exact .finished parallel.tokens
  · rw [parallel.state_eq, sameInput] at selected ⊢
    generalize left.select? other.state other.cursor.peek? = leftTaken at selected
    generalize right.select? other.state other.cursor.peek? = rightTaken at selected
    cases selected with
    | none => exact .failed (parallel.fault_eq _)
    | some alike => exact parallel.follow collect alike

/-- Automata with related transitions at the same places end alike after as many steps. -/
theorem Pointwise.runFor (pointwise : left.Pointwise related right)
    (collect : Transition.CollectAlike related values) (text : Text) (fuel : Nat) :
    Outcome.Related (List.Forall₂ (Token.Parallel values)) Eq
      (left.runFor fuel (.initial text)) (right.runFor fuel (.initial text)) :=
  runFor_related (pointwise.step collect) fuel (.initial collect text)

theorem Pointwise.tokenize (pointwise : left.Pointwise related right)
    (collect : Transition.CollectAlike related values) (text : Text) :
    Outcome.Related (List.Forall₂ (Token.Parallel values)) Eq
      (left.tokenize text) (right.tokenize text) := by
  rw [Automaton.tokenize, Automaton.tokenize, stepBound, stepBound, ← pointwise.size_eq]
  exact pointwise.runFor collect text _

theorem Pointwise.runsForever (pointwise : left.Pointwise related right)
    (collect : Transition.CollectAlike related values) {text : Text}
    (forever : left.RunsForever text) : right.RunsForever text := by
  intro round
  have running := runFor_eq_divergent_iff.mpr (forever round)
  exact runFor_eq_divergent_iff.mp ((pointwise.runFor collect text round).divergent_iff.mp running)

end Automaton

/-- A well-formed automaton and one that equals it but for which transitions keep their character
both run for ever on a text, or find the same fault in it, or divide it into tokens of the same
kinds.  If every transition that keeps its character in the first keeps it in the second as well,
each value of the first is part of the value of the second. -/
theorem includes_affect_values_only {left right : Automaton κ} (wellFormed : left.WellFormed)
    (alike : left.Pointwise Transition.AlikeButIncludes right) (text : Text) :
    (left.RunsForever text ∧ right.RunsForever text) ∨
    (∃ fault, left.tokenize text = .rejected fault ∧ right.tokenize text = .rejected fault) ∨
    ∃ tokens others, left.tokenize text = .accepted tokens ∧
      right.tokenize text = .accepted others ∧ tokens.length = others.length ∧
      tokens.map Token.kind = others.map Token.kind ∧
      (left.Pointwise Transition.IncludesWithin right →
        List.Forall₂ (fun token other => token.value.Sublist other.value) tokens others) := by
  have outcomes := alike.tokenize Transition.collectAlike_any text
  cases leftOutcome : left.tokenize text with
  | divergent =>
      have forever := Automaton.runsForever_of_tokenize wellFormed leftOutcome
      exact .inl ⟨forever, alike.runsForever Transition.collectAlike_any forever⟩
  | rejected fault =>
      rw [leftOutcome] at outcomes
      obtain ⟨_, rightOutcome, rfl⟩ := outcomes.exists_rejected
      exact .inr (.inl ⟨fault, rfl, rightOutcome⟩)
  | accepted tokens =>
      rw [leftOutcome] at outcomes
      obtain ⟨others, rightOutcome, parallel⟩ := outcomes.exists_accepted
      refine .inr (.inr ⟨tokens, others, rfl, rightOutcome, parallel.length_eq, ?_, ?_⟩)
      · exact Token.map_kind_eq parallel
      · intro within
        have ordered := (alike.and within).tokenize Transition.collectAlike_sublist text
        rw [leftOutcome, rightOutcome] at ordered
        cases ordered with
        | accepted sublists => exact sublists.imp fun _ _ here => here.value

/-- Quoted words, of which the tokens keep the quotes. -/
def quotesKept : List (Call Nat) :=
  [.on 0 (.oneOf ['"']), .moveToNew 0, .on 1 (.oneOf ['"']), .emit 1 7, .on 1 .letter, .stay 2]

/-- Quoted words, of which the tokens do not keep the quotes. -/
def quotesDropped : List (Call Nat) :=
  [.on 0 (.oneOf ['"']), .ignore 0, .moveToNew 0, .on 1 (.oneOf ['"']), .ignore 1, .emit 1 7,
    .on 1 .letter, .stay 2]

theorem quotesDropped_affects_values :
    (Call.automaton quotesDropped).Pointwise Transition.AlikeButIncludes
        (Call.automaton quotesKept) ∧
      (Call.automaton quotesDropped).Pointwise Transition.IncludesWithin
        (Call.automaton quotesKept) ∧
      (Call.automaton quotesDropped).tokenize "\"ab\"\"\"".toList =
        .accepted [⟨7, "ab".toList⟩, ⟨7, []⟩] ∧
      (∃ others, (Call.automaton quotesKept).tokenize "\"ab\"\"\"".toList = .accepted others ∧
        [7, 7] = others.map Token.kind ∧
        List.Forall₂ (fun token other : Token Nat => token.value.Sublist other.value)
          [⟨7, "ab".toList⟩, ⟨7, []⟩] others) ∧
      (Call.automaton quotesDropped).tokenize "\"a1".toList =
        .rejected ⟨.unmatched (some '1'), ⟨1, 2⟩, 2, 1⟩ ∧
      (Call.automaton quotesKept).tokenize "\"a1".toList =
        .rejected ⟨.unmatched (some '1'), ⟨1, 2⟩, 2, 1⟩ := by
  have alike : (Call.automaton quotesDropped).Pointwise Transition.AlikeButIncludes
      (Call.automaton quotesKept) := by decide
  have within : (Call.automaton quotesDropped).Pointwise Transition.IncludesWithin
      (Call.automaton quotesKept) := by decide
  have accepted : (Call.automaton quotesDropped).tokenize "\"ab\"\"\"".toList =
      .accepted [⟨7, "ab".toList⟩, ⟨7, []⟩] := by decide
  have rejected : (Call.automaton quotesDropped).tokenize "\"a1".toList =
      .rejected ⟨.unmatched (some '1'), ⟨1, 2⟩, 2, 1⟩ := by decide
  have compared (text : Text) := includes_affect_values_only
    (Call.automaton_wellFormed quotesDropped) alike text
  refine ⟨alike, within, accepted, ?_, rejected, ?_⟩
  · rcases compared "\"ab\"\"\"".toList with ⟨forever, _⟩ | ⟨fault, failed, _⟩ |
      ⟨tokens, others, found, otherFound, _, sameKinds, values⟩
    · cases forever.tokenize_eq.symm.trans accepted
    · cases failed.symm.trans accepted
    · obtain rfl : tokens = _ := Outcome.accepted.inj (found.symm.trans accepted)
      exact ⟨others, otherFound, sameKinds, values within⟩
  · rcases compared "\"a1".toList with ⟨forever, _⟩ | ⟨fault, failed, otherFailed⟩ |
      ⟨tokens, others, found, _⟩
    · cases forever.tokenize_eq.symm.trans rejected
    · rw [otherFailed, ← failed, rejected]
    · cases found.symm.trans rejected

end LexKit

import LexKit.Proofs.Scan.FaultLocation

/-!
Checking an automaton before it is run.

An undecided transition is a defect that a run meets only on some texts.  The check finds all of
them by looking at the transitions one after the other, without any text.  So every defect that a
run reports stands in the list of the check, under the place of the transition that was taken, and
an automaton that passes the check has no defect to report.
-/

namespace LexKit

variable {κ : Type}

/-- Locations come in the order of the states and, in one state, in the order of the transitions. -/
def Location.Before (left right : Location) : Prop :=
  left.state < right.state ∨ left.state = right.state ∧ left.transition < right.transition

theorem Location.Before.ne {left right : Location} (before : left.Before right) :
    left ≠ right := by
  rintro rfl
  rcases before with lower | ⟨_, lower⟩ <;> exact Nat.lt_irrefl _ lower

theorem pairwise_zipIdx {α : Type} (items : List α) :
    items.zipIdx.Pairwise fun left right => left.2 < right.2 := by
  rw [List.pairwise_iff_getElem]
  intro first second _ _ before
  simpa using before

namespace Automaton

variable {automaton : Automaton κ} {text : Text} {fault : Fault} {id : StateId}
  {input : Option Char} {transition : Transition κ} {location : Location}

/-! ### The list of the check -/

theorem mem_undecidedIn {state : State κ} :
    location ∈ undecidedIn id state ↔ location.state = id ∧
      ∃ transition, state[location.transition]? = some transition ∧
        transition.disposition = none := by
  simp only [undecidedIn, List.mem_filterMap, Prod.exists, List.mk_mem_zipIdx_iff_getElem?]
  constructor
  · rintro ⟨transition, index, found, listed⟩
    split_ifs at listed with undecided
    obtain rfl := Option.some.inj listed
    exact ⟨rfl, transition, found, Option.isNone_iff_eq_none.mp undecided⟩
  · rintro ⟨rfl, transition, found, undecided⟩
    exact ⟨transition, location.transition, found, by simp [undecided]⟩

theorem mem_undecided :
    location ∈ automaton.undecided ↔
      ∃ transition, automaton.transition? location = some transition ∧
        transition.disposition = none := by
  simp only [undecided, List.mem_flatMap, Prod.exists, List.mk_mem_zipIdx_iff_getElem?,
    mem_undecidedIn, transition?_eq_bind, Option.bind_eq_some_iff]
  constructor
  · rintro ⟨state, id, found, rfl, transition, listed, undecided⟩
    exact ⟨transition, ⟨state, found, listed⟩, undecided⟩
  · rintro ⟨transition, ⟨state, found, listed⟩, undecided⟩
    exact ⟨state, location.state, found, rfl, transition, listed, undecided⟩

theorem pairwise_undecidedIn (id : StateId) (state : State κ) :
    (undecidedIn id state).Pairwise Location.Before := by
  -- Transitions are numbered before those with a disposition are left out.
  rw [undecidedIn, List.pairwise_filterMap]
  apply (pairwise_zipIdx state).imp
  rintro ⟨left, leftIndex⟩ ⟨right, rightIndex⟩ before first listed second listedNext
  dsimp only at listed listedNext
  split_ifs at listed listedNext
  obtain rfl := Option.some.inj listed
  obtain rfl := Option.some.inj listedNext
  exact .inr ⟨rfl, before⟩

theorem pairwise_undecided (automaton : Automaton κ) :
    automaton.undecided.Pairwise Location.Before := by
  rw [undecided, List.pairwise_flatMap]
  constructor
  · rintro ⟨state, id⟩ _
    exact pairwise_undecidedIn id state
  · apply (pairwise_zipIdx automaton.states).imp
    rintro ⟨left, leftId⟩ ⟨right, rightId⟩ before first inLeft second inRight
    left
    rw [(mem_undecidedIn.mp inLeft).1, (mem_undecidedIn.mp inRight).1]
    exact before

theorem check_eq_ok_iff : automaton.check = .ok () ↔ automaton.undecided = [] := by
  rw [check]
  cases automaton.undecided with
  | nil => simp
  | cons location later => simp

theorem check_eq_error_iff {locations : List Location} :
    automaton.check = .error locations ↔
      locations = automaton.undecided ∧ automaton.undecided ≠ [] := by
  rw [check]
  cases automaton.undecided with
  | nil => simp
  | cons location later => simp [eq_comm]

/-! ### What runs report -/

theorem exists_selectIdx?_of_select? (selected : automaton.select? id input = some transition) :
    ∃ index, automaton.selectIdx? id input = some index ∧
      automaton.transition? ⟨id, index⟩ = some transition := by
  rw [select?, List.find?_eq_bind_findIdx?_getElem?, Option.bind_eq_some_iff] at selected
  exact selected

theorem genuine_of_tokenize (rejected : automaton.tokenize text = .rejected fault) :
    fault.Genuine automaton text := by
  have ended : automaton.tokenize text ≠ .divergent := by simp [rejected]
  obtain ⟨moves, run⟩ := exists_run_of_tokenize ended
  rw [rejected] at run
  exact run.genuine (.ofText text) .start

theorem exists_mem_undecided_of_tokenize (rejected : automaton.tokenize text = .rejected fault)
    (defective : fault.cause = .missingDestination) :
    ∃ index, automaton.selectIdx? fault.state text[fault.offset]? = some index ∧
      ⟨fault.state, index⟩ ∈ automaton.undecided := by
  have refused := (genuine_of_tokenize rejected).refused
  rw [defective] at refused
  cases refused with
  | undecided selected undecided =>
      obtain ⟨index, first, found⟩ := exists_selectIdx?_of_select? selected
      exact ⟨index, first, mem_undecided.mpr ⟨_, found, undecided⟩⟩

end Automaton

/-- The check of an automaton lists the places of exactly the undecided transitions, each once and
in order, and is passed if there are none.  A run that fails for want of a destination has taken the
transition at one of these places; with a checked automaton no run does. -/
theorem check_lists_every_defect (automaton : Automaton κ) :
    (∀ location, location ∈ automaton.undecided ↔
      ∃ transition, automaton.transition? location = some transition ∧
        transition.disposition = none) ∧
    automaton.undecided.Nodup ∧ automaton.undecided.Pairwise Location.Before ∧
    (automaton.check = .ok () ↔ automaton.undecided = []) ∧
    (∀ locations, automaton.check = .error locations ↔
      locations = automaton.undecided ∧ automaton.undecided ≠ []) ∧
    (∀ text fault, automaton.tokenize text = .rejected fault →
      fault.cause = .missingDestination →
      ∃ index, automaton.selectIdx? fault.state text[fault.offset]? = some index ∧
        ⟨fault.state, index⟩ ∈ automaton.undecided) ∧
    (automaton.check = .ok () → ∀ text fault, automaton.tokenize text = .rejected fault →
      fault.cause.isDefect = false) := by
  have ordered := automaton.pairwise_undecided
  refine ⟨fun _ => Automaton.mem_undecided, ordered.imp Location.Before.ne, ordered,
    Automaton.check_eq_ok_iff, fun _ => Automaton.check_eq_error_iff, ?_, ?_⟩
  · intro text fault rejected defective
    exact Automaton.exists_mem_undecided_of_tokenize rejected defective
  · intro passed text fault rejected
    cases cause : fault.cause with
    | unmatched input => rfl
    | explicit message => rfl
    | missingDestination =>
        obtain ⟨index, _, listed⟩ := Automaton.exists_mem_undecided_of_tokenize rejected cause
        rw [Automaton.check_eq_ok_iff.mp passed] at listed
        exact absurd listed List.not_mem_nil

/-- Digits, and words in which only the first letter has been dealt with. -/
def halfDrawn : List (Call Nat) :=
  [.on 0 .digit, .emit 0 7, .on 0 .letter, .moveToNew 1, .on 1 .letter, .ignore 2, .on 1 .any,
    .rewind 3, .emit 3 8, .on 0 .endOfInput]

/-- What is missing. -/
def otherHalf : List (Call Nat) := [.stay 2, .emit 4 9]

theorem halfDrawn_checked :
    (Call.automaton halfDrawn).undecided = [⟨0, 2⟩, ⟨1, 0⟩] ∧
      (Call.automaton halfDrawn).tokenize "1ab".toList =
        .rejected ⟨.missingDestination, ⟨1, 2⟩, 2, 1⟩ ∧
      (∃ index, (Call.automaton halfDrawn).selectIdx? 1 (some 'b') = some index ∧
        ⟨1, index⟩ ∈ (Call.automaton halfDrawn).undecided) ∧
      (Call.automaton (halfDrawn ++ otherHalf)).check = .ok () ∧
      (Call.automaton (halfDrawn ++ otherHalf)).tokenize "1ab!".toList =
        .rejected ⟨.unmatched (some '!'), ⟨1, 3⟩, 3, 0⟩ ∧
      FaultCause.isDefect (.unmatched (some '!')) = false := by
  have rejected : (Call.automaton halfDrawn).tokenize "1ab".toList =
      .rejected ⟨.missingDestination, ⟨1, 2⟩, 2, 1⟩ := by decide
  have passed : (Call.automaton (halfDrawn ++ otherHalf)).check = .ok () := by rfl
  have rejectedLater : (Call.automaton (halfDrawn ++ otherHalf)).tokenize "1ab!".toList =
      .rejected ⟨.unmatched (some '!'), ⟨1, 3⟩, 3, 0⟩ := by decide
  obtain ⟨_, _, _, _, _, located, _⟩ := check_lists_every_defect (Call.automaton halfDrawn)
  obtain ⟨_, _, _, _, _, _, sound⟩ :=
    check_lists_every_defect (Call.automaton (halfDrawn ++ otherHalf))
  exact ⟨rfl, rejected, located _ _ rejected rfl, passed, rejectedLater,
    sound passed _ _ rejectedLater⟩

end LexKit

import LexKit.Automaton.Design
import Mathlib.Data.List.Basic

/-!
Edits of an automaton in either order.

Two edits commute if they change different rows, or different transitions of one row.  A transition
or a state that is added behind all others does not disturb an edit of what is already there.
-/

namespace LexKit

variable {κ : Type}

theorem modify_concat {α : Type} {list : List α} {place : Nat} (inside : place < list.length)
    (change : α → α) (added : α) :
    (list ++ [added]).modify place change = list.modify place change ++ [added] := by
  induction list generalizing place with
  | nil => simp at inside
  | cons head tail inductionHypothesis =>
      cases place with
      | zero => rfl
      | succ place =>
          simp only [List.cons_append, List.modify_succ_cons]
          rw [inductionHypothesis (Nat.lt_of_succ_lt_succ inside)]

theorem modify_concat_length {α : Type} (list : List α) (change : α → α) (added : α) :
    (list ++ [added]).modify list.length change = list ++ [change added] := by
  induction list with
  | nil => rfl
  | cons head tail inductionHypothesis =>
      rw [List.cons_append, List.length_cons, List.modify_succ_cons, inductionHypothesis,
        List.cons_append]

namespace Automaton

variable (automaton : Automaton κ)

theorem state_of_getElem? {id : StateId} {row : State κ}
    (found : automaton.states[id]? = some row) : automaton.state id = row := by
  simp [state, List.getD_eq_getElem?_getD, found]

theorem modifyState_congr {id : StateId} {change otherChange : State κ → State κ}
    (same : change (automaton.state id) = otherChange (automaton.state id)) :
    automaton.modifyState id change = automaton.modifyState id otherChange := by
  apply congrArg Automaton.mk
  apply List.ext_getElem?
  intro place
  rw [List.getElem?_modify, List.getElem?_modify]
  cases found : automaton.states[place]? with
  | none => rfl
  | some row =>
      by_cases own : id = place
      · subst own
        simpa [automaton.state_of_getElem? found] using same
      · simp [own]

theorem modifyState_modifyState (id : StateId) (change otherChange : State κ → State κ) :
    (automaton.modifyState id change).modifyState id otherChange =
      automaton.modifyState id (otherChange ∘ change) :=
  congrArg Automaton.mk (List.modify_modify_eq _ _ _ _)

/-- Changes to rows commute if they do so on the row that both of them change. -/
theorem modifyState_comm {id other : StateId} {change otherChange : State κ → State κ}
    (commute : id = other → otherChange (change (automaton.state id)) =
      change (otherChange (automaton.state id))) :
    (automaton.modifyState id change).modifyState other otherChange =
      (automaton.modifyState other otherChange).modifyState id change := by
  by_cases same : id = other
  · subst same
    rw [modifyState_modifyState, modifyState_modifyState]
    exact automaton.modifyState_congr (commute rfl)
  · simp only [modifyState]
    rw [List.modify_modify_ne _ _ _ same]

theorem addTransition_comm {id other : StateId} (different : id ≠ other)
    (transition otherTransition : Transition κ) :
    (automaton.addTransition id transition).addTransition other otherTransition =
      (automaton.addTransition other otherTransition).addTransition id transition :=
  automaton.modifyState_comm fun same => absurd same different

theorem modifyTransition_comm {location other : Location} (different : location ≠ other)
    (change otherChange : Transition κ → Transition κ) :
    (automaton.modifyTransition location change).modifyTransition other otherChange =
      (automaton.modifyTransition other otherChange).modifyTransition location change := by
  apply automaton.modifyState_comm
  intro sameState
  apply List.modify_modify_ne
  intro sameIndex
  apply different
  cases location
  cases other
  simp_all

/-- A transition that is already there does not mind one that is added. -/
theorem addTransition_modifyTransition {location : Location}
    (present : location.transition < (automaton.state location.state).length) (id : StateId)
    (transition : Transition κ) (change : Transition κ → Transition κ) :
    (automaton.addTransition id transition).modifyTransition location change =
      (automaton.modifyTransition location change).addTransition id transition := by
  apply automaton.modifyState_comm
  rintro rfl
  exact modify_concat present change transition

/-- A transition that is changed as soon as it is added. -/
theorem addTransition_modifyTransition_new (id : StateId) (transition : Transition κ)
    (change : Transition κ → Transition κ) :
    (automaton.addTransition id transition).modifyTransition ⟨id, (automaton.state id).length⟩
      change = automaton.addTransition id (change transition) := by
  rw [addTransition, modifyTransition, modifyState_modifyState]
  exact automaton.modifyState_congr (modify_concat_length _ change transition)

theorem addState_modifyState {id : StateId} (inside : id < automaton.size)
    (change : State κ → State κ) :
    automaton.addState.modifyState id change = (automaton.modifyState id change).addState :=
  congrArg Automaton.mk (modify_concat inside change [])

theorem settleNew_addTransition {location : Location}
    (present : location.transition < (automaton.state location.state).length) {id : StateId}
    (inside : id < automaton.size) (transition : Transition κ) :
    (automaton.settleNew location).addTransition id transition =
      (automaton.addTransition id transition).settleNew location := by
  have grown : automaton.addState.addTransition id transition =
      (automaton.addTransition id transition).addState :=
    automaton.addState_modifyState inside _
  rw [settleNew, settleNew, settle, settle, size_addTransition, ← grown,
    addTransition_modifyTransition]
  rwa [state_addState]

theorem settleNew_modifyTransition {location other : Location} (different : location ≠ other)
    (inside : other.state < automaton.size) (change : Transition κ → Transition κ) :
    (automaton.settleNew location).modifyTransition other change =
      (automaton.modifyTransition other change).settleNew location := by
  have grown : automaton.addState.modifyTransition other change =
      (automaton.modifyTransition other change).addState :=
    automaton.addState_modifyState inside _
  rw [settleNew, settleNew, settle, settle, size_modifyTransition, ← grown,
    modifyTransition_comm _ different]

theorem settleNew_settleNew {location : Location} (inside : location.state < automaton.size)
    (other : Location) :
    (automaton.settleNew location).settleNew other =
      (automaton.addState.addState.settle location (.moveTo automaton.size)).settle other
        (.moveTo (automaton.size + 1)) := by
  have insideGrown : location.state < automaton.addState.size := by
    rw [size_addState]
    exact Nat.lt_succ_of_lt inside
  have grown : automaton.addState.addState.settle location (.moveTo automaton.size) =
      (automaton.settleNew location).addState :=
    automaton.addState.addState_modifyState insideGrown _
  have larger : (automaton.settleNew location).size = automaton.size + 1 := by
    simp [settleNew, settle]
  rw [grown, settleNew, larger]

theorem length_state_modifyTransition (location : Location) (change : Transition κ → Transition κ)
    (id : StateId) :
    ((automaton.modifyTransition location change).state id).length =
      (automaton.state id).length := by
  simp only [state, modifyTransition, modifyState, List.getD_eq_getElem?_getD,
    List.getElem?_modify]
  cases automaton.states[id]? with
  | none => rfl
  | some row =>
      simp only [Option.map_eq_map, Option.map_some, Option.getD_some]
      split_ifs <;> simp

theorem length_state_settleNew (location : Location) (id : StateId) :
    ((automaton.settleNew location).state id).length = (automaton.state id).length := by
  rw [settleNew, settle, length_state_modifyTransition, state_addState]

end Automaton

end LexKit

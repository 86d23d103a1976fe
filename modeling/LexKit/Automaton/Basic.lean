import LexKit.Automaton.CharClass

/-!
Deterministic automata over characters.

A state is an ordered list of guarded transitions, and the first one that handles the input is
taken.  States refer to each other by number, so the graph may have cycles.  A number without a
state stands for a state without transitions.
-/

namespace LexKit

abbrev StateId := Nat

namespace StateId

/-- The state in which every token begins. -/
def start : StateId := 0

def render (state : StateId) : Text :=
  's' :: Text.decimal state

end StateId

/-- The place of a transition: its state, and its index among the transitions of that state. -/
structure Location where
  state : StateId
  transition : Nat
  deriving DecidableEq

def Location.render (location : Location) : Text :=
  location.state.render ++ ", transition #".toList ++ Text.decimal location.transition

/-- What happens once a transition has been taken. -/
inductive Disposition (κ : Type) where
  /-- Go on in another state and keep the characters collected so far. -/
  | moveTo (state : StateId)
  /-- Finish a token of the given kind and go back to the start state. -/
  | emit (kind : κ)
  /-- Give up with a message. -/
  | fail (message : Text)
  deriving DecidableEq

/-- A guarded edge out of a state. -/
structure Transition (κ : Type) where
  /-- The inputs that the transition reacts to. -/
  on : CharClass
  /-- Whether the character becomes part of the token. -/
  includes : Bool := true
  /-- Whether the character is looked at again afterwards. -/
  rereads : Bool := false
  /-- What happens next, if that has been decided. -/
  disposition : Option (Disposition κ) := none
  deriving DecidableEq

/-- The transitions out of a state, in the order in which they are tried. -/
abbrev State (κ : Type) := List (Transition κ)

/-- An automaton: its states by number. -/
structure Automaton (κ : Type) where
  states : List (State κ)
  deriving DecidableEq

namespace Automaton

variable {κ : Type}

/-- The automaton whose start state has no transitions. -/
def empty : Automaton κ := ⟨[[]]⟩

def size (automaton : Automaton κ) : Nat :=
  automaton.states.length

def state (automaton : Automaton κ) (id : StateId) : State κ :=
  automaton.states.getD id []

def transition? (automaton : Automaton κ) (location : Location) : Option (Transition κ) :=
  (automaton.state location.state)[location.transition]?

/-- The first transition of a state that handles the input. -/
def select? (automaton : Automaton κ) (id : StateId) (input : Option Char) :
    Option (Transition κ) :=
  (automaton.state id).find? (·.on.handles input)

def selectIdx? (automaton : Automaton κ) (id : StateId) (input : Option Char) : Option Nat :=
  (automaton.state id).findIdx? (·.on.handles input)

/-! ### Editing -/

/-- Append a state without transitions; its number is the old size. -/
def addState (automaton : Automaton κ) : Automaton κ :=
  ⟨automaton.states ++ [[]]⟩

def modifyState (automaton : Automaton κ) (id : StateId) (change : State κ → State κ) :
    Automaton κ :=
  ⟨automaton.states.modify id change⟩

/-- Append a transition to a state, to be tried after all earlier ones. -/
def addTransition (automaton : Automaton κ) (id : StateId) (transition : Transition κ) :
    Automaton κ :=
  automaton.modifyState id (· ++ [transition])

def clearState (automaton : Automaton κ) (id : StateId) : Automaton κ :=
  automaton.modifyState id fun _ => []

/-- Change one transition and leave all others as they are. -/
def modifyTransition (automaton : Automaton κ) (location : Location)
    (change : Transition κ → Transition κ) : Automaton κ :=
  automaton.modifyState location.state (·.modify location.transition change)

@[simp]
theorem size_empty : (empty : Automaton κ).size = 1 := rfl

@[simp]
theorem size_addState (automaton : Automaton κ) :
    automaton.addState.size = automaton.size + 1 := by
  simp [size, addState]

@[simp]
theorem size_modifyState (automaton : Automaton κ) (id : StateId)
    (change : State κ → State κ) :
    (automaton.modifyState id change).size = automaton.size := by
  simp [size, modifyState]

@[simp]
theorem size_addTransition (automaton : Automaton κ) (id : StateId)
    (transition : Transition κ) :
    (automaton.addTransition id transition).size = automaton.size :=
  automaton.size_modifyState id _

@[simp]
theorem size_modifyTransition (automaton : Automaton κ) (location : Location)
    (change : Transition κ → Transition κ) :
    (automaton.modifyTransition location change).size = automaton.size :=
  automaton.size_modifyState location.state _

theorem state_of_size_le (automaton : Automaton κ) {id : StateId}
    (beyond : automaton.size ≤ id) : automaton.state id = [] := by
  simp only [size] at beyond
  simp [state, List.getD_eq_getElem?_getD, List.getElem?_eq_none beyond]

@[simp]
theorem state_addState (automaton : Automaton κ) (id : StateId) :
    automaton.addState.state id = automaton.state id := by
  by_cases inside : id < automaton.states.length
  · simp [state, addState, List.getD_eq_getElem?_getD, List.getElem?_append_left inside]
  · have beyond := Nat.le_of_not_lt inside
    rw [automaton.state_of_size_le beyond]
    simp only [state, addState, List.getD_eq_getElem?_getD, List.getElem?_append_right beyond]
    cases id - automaton.states.length <;> simp

theorem state_modifyState_same (automaton : Automaton κ) {id : StateId}
    (inside : id < automaton.size) (change : State κ → State κ) :
    (automaton.modifyState id change).state id = change (automaton.state id) := by
  simp only [size] at inside
  simp [state, modifyState, List.getD_eq_getElem?_getD, List.getElem?_eq_getElem inside]

theorem state_modifyState_of_ne (automaton : Automaton κ) {id other : StateId}
    (different : id ≠ other) (change : State κ → State κ) :
    (automaton.modifyState id change).state other = automaton.state other := by
  simp [state, modifyState, List.getD_eq_getElem?_getD, different]

@[simp]
theorem transition?_addState (automaton : Automaton κ) (location : Location) :
    automaton.addState.transition? location = automaton.transition? location := by
  simp [transition?]

theorem transition?_eq_bind (automaton : Automaton κ) (location : Location) :
    automaton.transition? location =
      automaton.states[location.state]?.bind (·[location.transition]?) := by
  rw [transition?, state, List.getD_eq_getElem?_getD]
  cases automaton.states[location.state]? <;> simp

theorem modifyTransition_id (automaton : Automaton κ) (location : Location) :
    automaton.modifyTransition location id = automaton := by
  have unchanged : (fun row : State κ => row.modify location.transition id) = id :=
    funext fun row => row.modify_id location.transition
  unfold modifyTransition modifyState
  rw [unchanged, List.modify_id]

theorem transition?_modifyTransition_same (automaton : Automaton κ) (location : Location)
    (change : Transition κ → Transition κ) :
    (automaton.modifyTransition location change).transition? location =
      (automaton.transition? location).map change := by
  simp only [transition?_eq_bind, modifyTransition, modifyState, List.getElem?_modify_eq]
  cases automaton.states[location.state]? <;> simp

theorem transition?_modifyTransition_of_ne (automaton : Automaton κ) {location other : Location}
    (different : location ≠ other) (change : Transition κ → Transition κ) :
    (automaton.modifyTransition location change).transition? other =
      automaton.transition? other := by
  simp only [transition?_eq_bind, modifyTransition, modifyState, List.getElem?_modify]
  by_cases sameState : location.state = other.state
  · have differentIndex : location.transition ≠ other.transition := by
      intro sameIndex
      cases location
      cases other
      simp_all
    cases automaton.states[other.state]? <;> simp [sameState, differentIndex]
  · simp [sameState]

/-- The place behind the last transition of a state is free. -/
theorem transition?_new (automaton : Automaton κ) (id : StateId) :
    automaton.transition? ⟨id, (automaton.state id).length⟩ = none := by
  simp [transition?]

theorem transition?_addTransition_new (automaton : Automaton κ) {id : StateId}
    (inside : id < automaton.size) (transition : Transition κ) :
    (automaton.addTransition id transition).transition? ⟨id, (automaton.state id).length⟩ =
      some transition := by
  simp [transition?, addTransition, state_modifyState_same _ inside]

theorem transition?_addTransition_of_ne (automaton : Automaton κ) {id : StateId}
    (transition : Transition κ) {other : Location}
    (different : other ≠ ⟨id, (automaton.state id).length⟩) :
    (automaton.addTransition id transition).transition? other = automaton.transition? other := by
  by_cases sameState : id = other.state
  · subst sameState
    have differentIndex : other.transition ≠ (automaton.state other.state).length := by
      intro last
      exact different (by rw [← last])
    simp only [state, List.getD_eq_getElem?_getD] at differentIndex
    simp only [transition?_eq_bind, addTransition, modifyState, List.getElem?_modify_eq]
    cases found : automaton.states[other.state]? with
    | none => simp
    | some row =>
        rw [found] at differentIndex
        simp only [Option.getD_some] at differentIndex
        simp only [Option.map_eq_map, Option.map_some, Option.bind_some, List.getElem?_append]
        split
        · rfl
        · have beyond : row.length < other.transition := by omega
          simp [Nat.le_of_lt beyond, Nat.sub_ne_zero_of_lt beyond]
  · rw [transition?, transition?, addTransition, state_modifyState_of_ne _ sameState]

/-! ### Checking -/

/-- The locations in one state of the transitions without a disposition, in order. -/
def undecidedIn (id : StateId) (state : State κ) : List Location :=
  state.zipIdx.filterMap fun (transition, index) =>
    if transition.disposition.isNone then some ⟨id, index⟩ else none

/-- The locations of all transitions without a disposition, by state and then by index. -/
def undecided (automaton : Automaton κ) : List Location :=
  automaton.states.zipIdx.flatMap fun (state, id) => undecidedIn id state

/-- Whether every transition has a disposition; if not, where those are that have none. -/
def check (automaton : Automaton κ) : Except (List Location) Unit :=
  match automaton.undecided with
  | [] => .ok ()
  | undecided => .error undecided

end Automaton

end LexKit

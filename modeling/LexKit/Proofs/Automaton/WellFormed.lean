import LexKit.Automaton.Session

/-!
What every drawn automaton has in common.

Calls on a session only ever link states that exist, never let a transition both keep a character
and look at it again, and never let a transition fail without a message.  `Session.Valid` is the
invariant behind this: it also says that every handle that was given out belongs to a state.
-/

namespace LexKit

variable {κ : Type}

/-- What drawing makes of a transition in an automaton with `size` states. -/
structure Transition.Legal (size : Nat) (transition : Transition κ) : Prop where
  target_lt : ∀ target, transition.disposition = some (.moveTo target) → target < size
  includes_of_rereads : transition.rereads = true → transition.includes = false
  message_ne_nil : ∀ message, transition.disposition = some (.fail message) → message ≠ []

namespace Transition.Legal

variable {size : Nat} {transition : Transition κ}

theorem mono {larger : Nat} (grows : size ≤ larger) (legal : transition.Legal size) :
    transition.Legal larger := by
  refine ⟨?_, legal.includes_of_rereads, legal.message_ne_nil⟩
  intro target decided
  exact Nat.lt_of_lt_of_le (legal.target_lt target decided) grows

theorem opened (size : Nat) (charClass : CharClass) :
    ({ on := charClass } : Transition κ).Legal size := by
  refine ⟨?_, ?_, ?_⟩
  · intro target decided
    simp at decided
  · intro reread
    simp at reread
  · intro message decided
    simp at decided

theorem ignoring (legal : transition.Legal size) : transition.ignoring.Legal size :=
  ⟨legal.target_lt, fun _ => rfl, legal.message_ne_nil⟩

theorem rewinding (legal : transition.Legal size) : transition.rewinding.Legal size :=
  ⟨legal.target_lt, fun _ => rfl, legal.message_ne_nil⟩

theorem moveTo {target : StateId} (legal : transition.Legal size) (inside : target < size) :
    (transition.deciding (.moveTo target)).Legal size := by
  refine ⟨?_, legal.includes_of_rereads, ?_⟩
  · intro other decided
    simp only [deciding, Option.some.injEq, Disposition.moveTo.injEq] at decided
    exact decided ▸ inside
  · intro message decided
    simp [deciding] at decided

theorem emit {kind : κ} (legal : transition.Legal size) :
    (transition.deciding (.emit kind)).Legal size := by
  refine ⟨?_, legal.includes_of_rereads, ?_⟩
  · intro target decided
    simp [deciding] at decided
  · intro message decided
    simp [deciding] at decided

theorem fail {message : Text} (legal : transition.Legal size) (nonempty : message ≠ []) :
    (transition.deciding (.fail message)).Legal size := by
  refine ⟨?_, legal.includes_of_rereads, ?_⟩
  · intro target decided
    simp [deciding] at decided
  · intro other decided
    simp only [deciding, Option.some.injEq, Disposition.fail.injEq] at decided
    exact decided ▸ nonempty

end Transition.Legal

namespace Automaton

/-- Every state that the automaton mentions exists. -/
structure WellFormed (automaton : Automaton κ) : Prop where
  start_lt : StateId.start < automaton.size
  target_lt : ∀ id, ∀ transition ∈ automaton.state id, ∀ target,
    transition.disposition = some (.moveTo target) → target < automaton.size

def All (property : Transition κ → Prop) (automaton : Automaton κ) : Prop :=
  ∀ id, ∀ transition ∈ automaton.state id, property transition

theorem mem_of_select? {automaton : Automaton κ} {id : StateId} {input : Option Char}
    {transition : Transition κ} (selected : automaton.select? id input = some transition) :
    transition ∈ automaton.state id :=
  List.mem_of_find?_eq_some selected

theorem mem_state_modifyState {automaton : Automaton κ} {id other : StateId}
    {change : State κ → State κ} {transition : Transition κ}
    (present : transition ∈ (automaton.modifyState id change).state other) :
    transition ∈ automaton.state other ∨ transition ∈ change (automaton.state id) := by
  by_cases same : id = other
  · subst same
    by_cases inside : id < automaton.size
    · rw [state_modifyState_same _ inside] at present
      exact .inr present
    · rw [state_of_size_le _ (by simpa using inside)] at present
      simp at present
  · rw [state_modifyState_of_ne _ same] at present
    exact .inl present

namespace All

variable {property : Transition κ → Prop} {automaton : Automaton κ}

theorem addState (holds : automaton.All property) : automaton.addState.All property := by
  intro id transition present
  rw [state_addState] at present
  exact holds id transition present

theorem addTransition {id : StateId} {transition : Transition κ}
    (holds : automaton.All property) (new : property transition) :
    (automaton.addTransition id transition).All property := by
  intro other found present
  rcases mem_state_modifyState present with old | changed
  · exact holds other found old
  · rcases List.mem_append.mp changed with old | added
    · exact holds id found old
    · rw [List.mem_singleton.mp added]
      exact new

theorem modifyTransition {location : Location} {change : Transition κ → Transition κ}
    (holds : automaton.All property) (kept : ∀ old, property old → property (change old)) :
    (automaton.modifyTransition location change).All property := by
  intro other found present
  rcases mem_state_modifyState present with old | changed
  · exact holds other found old
  · obtain ⟨position, bound, rfl⟩ := List.mem_iff_getElem.mp changed
    simp only [List.length_modify] at bound
    have original := holds location.state _ (List.getElem_mem bound)
    rw [List.getElem_modify]
    split
    · exact kept _ original
    · exact original

end All

end Automaton

namespace Session

/-! ### Acting through handles -/

/-- An action on a state happens on a state whose handle was given out, or not at all. -/
theorem withState_induction {session : Session κ} {handle : Nat}
    {act : StateId → Session κ × Reply} {property : Session κ → Prop}
    (unchanged : property session)
    (acted : ∀ state, session.states[handle]? = some state → property (act state).1) :
    property (session.withState handle act).1 := by
  unfold withState
  split
  next state found => exact acted state found
  next => exact unchanged

/-- An action on a transition happens where its handle is still good, or not at all. -/
theorem withTransition_induction {session : Session κ} {handle : Nat}
    {act : Location → Session κ × Reply} {property : Session κ → Prop}
    (unchanged : property session)
    (acted : ∀ location, session.transitions[handle]? = some { location, spent := false } →
      property (act location).1) :
    property (session.withTransition handle act).1 := by
  unfold withTransition
  split
  next location found => exact acted location found
  next => exact unchanged
  next => exact unchanged

/-- What every call preserves holds after any number of calls. -/
theorem run_induction {property : Session κ → Prop} (calls : List (Call κ))
    (session : Session κ) (start : property session)
    (perform : ∀ current call, property current → property (current.perform call).1) :
    property (session.run calls).1 := by
  induction calls generalizing session with
  | nil => exact start
  | cons call calls inductionHypothesis =>
      exact inductionHypothesis _ (perform session call start)

/-! ### The invariant -/

/-- The automaton is legal throughout, and every handle belongs to one of its states. -/
structure Valid (session : Session κ) : Prop where
  start_lt : StateId.start < session.automaton.size
  legal : session.automaton.All (Transition.Legal session.automaton.size)
  state_lt : ∀ state ∈ session.states, state < session.automaton.size
  location_lt : ∀ opened ∈ session.transitions, opened.location.state < session.automaton.size

namespace Valid

variable {session : Session κ}

theorem initial : (Session.initial : Session κ).Valid where
  start_lt := Nat.zero_lt_one
  legal := by
    intro id transition present
    cases id <;> simp [Session.initial, Automaton.empty, Automaton.state] at present
  state_lt := by
    intro state given
    rw [List.mem_singleton.mp given]
    exact Nat.zero_lt_one
  location_lt := by
    intro opened given
    simp [Session.initial] at given

theorem spend (valid : session.Valid) (handle : Nat) : (session.spend handle).Valid where
  start_lt := valid.start_lt
  legal := valid.legal
  state_lt := valid.state_lt
  location_lt := by
    intro opened given
    obtain ⟨position, bound, rfl⟩ := List.mem_iff_getElem.mp given
    simp only [Session.spend, List.length_modify] at bound
    have original := valid.location_lt _ (List.getElem_mem bound)
    simp only [Session.spend, List.getElem_modify]
    split <;> exact original

theorem modifyTransition (valid : session.Valid) (location : Location)
    {change : Transition κ → Transition κ}
    (kept : ∀ old, old.Legal session.automaton.size →
      (change old).Legal session.automaton.size) :
    Valid { session with
      automaton := session.automaton.modifyTransition location change } where
  start_lt := by simpa using valid.start_lt
  legal := by
    simp only [Automaton.size_modifyTransition]
    exact valid.legal.modifyTransition kept
  state_lt := by simpa using valid.state_lt
  location_lt := by simpa using valid.location_lt

theorem addState (valid : session.Valid) :
    Valid { session with automaton := session.automaton.addState } where
  start_lt := by
    simp only [Automaton.size_addState]
    exact Nat.lt_succ_of_lt valid.start_lt
  legal := by
    intro id transition present
    simp only [Automaton.size_addState]
    exact (valid.legal.addState id transition present).mono (Nat.le_succ _)
  state_lt := by
    intro state given
    simp only [Automaton.size_addState]
    exact Nat.lt_succ_of_lt (valid.state_lt state given)
  location_lt := by
    intro opened given
    simp only [Automaton.size_addState]
    exact Nat.lt_succ_of_lt (valid.location_lt opened given)

theorem handOut (valid : session.Valid) {state : StateId}
    (inside : state < session.automaton.size) : (session.handOut state).1.Valid where
  start_lt := valid.start_lt
  legal := valid.legal
  state_lt := by
    intro other given
    rcases List.mem_append.mp given with old | new
    · exact valid.state_lt other old
    · rw [List.mem_singleton.mp new]
      exact inside
  location_lt := valid.location_lt

theorem openOn (valid : session.Valid) {state : StateId} (charClass : CharClass)
    (inside : state < session.automaton.size) : (session.openOn state charClass).1.Valid where
  start_lt := by simpa [Session.openOn, Design.on] using valid.start_lt
  legal := by
    simp only [Session.openOn, Design.on, Automaton.size_addTransition]
    exact valid.legal.addTransition (.opened _ charClass)
  state_lt := by simpa [Session.openOn, Design.on] using valid.state_lt
  location_lt := by
    intro opened given
    simp only [Session.openOn, Design.on, Automaton.size_addTransition] at given ⊢
    rcases List.mem_append.mp given with old | new
    · exact valid.location_lt opened old
    · rw [List.mem_singleton.mp new]
      exact inside

theorem edit (valid : session.Valid) (handle : Nat)
    {change : Location → Transition κ → Transition κ}
    (kept : ∀ location, location.state < session.automaton.size → ∀ old,
      old.Legal session.automaton.size → (change location old).Legal session.automaton.size) :
    (session.edit handle change).1.Valid := by
  apply withTransition_induction valid
  intro location found
  have inside := valid.location_lt _ (List.mem_of_getElem? found)
  exact valid.modifyTransition location (kept location inside)

theorem complete (valid : session.Valid) (handle : Nat)
    {change : Automaton κ → Location → Automaton κ} {reply : Reply}
    (kept : ∀ location, Valid { session with
      automaton := change session.automaton location }) :
    (session.complete handle change reply).1.Valid := by
  apply withTransition_induction valid
  intro location _
  exact (kept location).spend handle

theorem settle (valid : session.Valid) (location : Location) {disposition : Disposition κ}
    (kept : ∀ old : Transition κ, old.Legal session.automaton.size →
      (old.deciding disposition).Legal session.automaton.size) :
    Valid { session with automaton := session.automaton.settle location disposition } :=
  valid.modifyTransition location kept

theorem perform (valid : session.Valid) (call : Call κ) : (session.perform call).1.Valid := by
  cases call with
  | on state charClass =>
      apply withState_induction valid
      intro id found
      exact valid.openOn charClass (valid.state_lt id (List.mem_of_getElem? found))
  | ignore transition => exact valid.edit transition fun _ _ _ legal => legal.ignoring
  | rewind transition => exact valid.edit transition fun _ _ _ legal => legal.rewinding
  | stay transition => exact valid.edit transition fun _ inside _ legal => legal.moveTo inside
  | moveTo transition state =>
      apply withState_induction valid
      intro target found
      have inside := valid.state_lt target (List.mem_of_getElem? found)
      exact valid.edit transition fun _ _ _ legal => legal.moveTo inside
  | moveToNew transition =>
      apply withTransition_induction valid
      intro location _
      have inside : session.automaton.size < session.automaton.addState.size := by simp
      have linked : Valid { session.spend transition with
          automaton := session.automaton.settleNew location } :=
        (valid.spend transition).addState.settle location fun _ legal => legal.moveTo inside
      apply linked.handOut
      simp [Automaton.settleNew, Automaton.settle]
  | moveToForeign transition => exact valid.complete transition fun _ => valid
  | emit transition kind =>
      exact valid.complete transition fun location =>
        valid.settle location fun _ legal => legal.emit
  | fail transition message =>
      refine valid.complete transition fun location => ?_
      cases message with
      | nil => simpa [Automaton.settleFail] using valid
      | cons c rest =>
          simp only [Automaton.settleFail, List.isEmpty_cons, Bool.false_eq_true, ↓reduceIte]
          exact valid.settle location fun _ legal => legal.fail (List.cons_ne_nil c rest)
  | identify state => exact withState_induction valid fun _ _ => valid
  | copy state =>
      apply withState_induction valid
      intro id found
      exact valid.handOut (valid.state_lt id (List.mem_of_getElem? found))

end Valid

/-- Every session is valid, whatever calls were made on it. -/
theorem valid_run (calls : List (Call κ)) : ((initial : Session κ).run calls).1.Valid :=
  run_induction calls initial .initial fun _ call valid => valid.perform call

end Session

namespace Call

theorem automaton_wellFormed (calls : List (Call κ)) : (Call.automaton calls).WellFormed where
  start_lt := (Session.valid_run calls).start_lt
  target_lt := fun id transition present target decided =>
    ((Session.valid_run calls).legal id transition present).target_lt target decided

theorem includes_of_rereads {calls : List (Call κ)} {state : StateId} {input : Option Char}
    {transition : Transition κ}
    (selected : (Call.automaton calls).select? state input = some transition)
    (reread : transition.rereads = true) : transition.includes = false :=
  ((Session.valid_run calls).legal state transition
    (Automaton.mem_of_select? selected)).includes_of_rereads reread

end Call

end LexKit

import LexKit.Proofs.Automaton.WellFormed
import LexKit.Proofs.Blueprint.Basic

/-!
The same calls draw the same automaton.

An edge is resolved into a transition by the priority of its fields.  A call on a session replaces
the disposition of a transition, a call on a draft fills one more field of an edge.  The two agree
because the calls that fill in a token or an error use up the handle: an edge whose handle is still
good has neither, so its next state is what counts.
-/

namespace LexKit

variable {κ : Type}

namespace Blueprint

/-- The transition that an edge amounts to. -/
def Edge.resolve (edge : Edge κ) : Transition κ where
  on := edge.on
  includes := edge.includes
  rereads := edge.rereads
  disposition :=
    if edge.message ≠ [] then some (.fail edge.message)
    else
      match edge.tokenKind with
      | some kind => some (.emit kind)
      | none => edge.nextState.map .moveTo

/-- An edge that leads to its next state, if it has one. -/
structure Edge.Open (edge : Edge κ) : Prop where
  tokenKind : edge.tokenKind = none
  errorMessage : edge.errorMessage = none

theorem Edge.Open.resolve_eq {edge : Edge κ} (opened : edge.Open) :
    edge.resolve = ⟨edge.on, edge.includes, edge.rereads, edge.nextState.map .moveTo⟩ := by
  simp [resolve, message, opened.errorMessage, opened.tokenKind]

/-- As long as an edge is open, its next state is what it leads to. -/
theorem Edge.Open.link {edge : Edge κ} (opened : edge.Open) (target : StateId) :
    Edge.Open { edge with nextState := some target } ∧
      Edge.resolve { edge with nextState := some target } =
        edge.resolve.deciding (.moveTo target) := by
  have staysOpen : Edge.Open { edge with nextState := some target } :=
    ⟨opened.tokenKind, opened.errorMessage⟩
  refine ⟨staysOpen, ?_⟩
  rw [staysOpen.resolve_eq, opened.resolve_eq]
  rfl

namespace Draft

def edge? (draft : Draft κ) (location : Location) : Option (Edge κ) :=
  draft.states[location.state]?.bind (·[location.transition]?)

theorem edge?_modifyEdge_same {draft : Draft κ} {location : Location} {edge : Edge κ}
    (found : draft.edge? location = some edge) (change : Edge κ → Edge κ) :
    (draft.modifyEdge location change).edge? location = some (change edge) := by
  obtain ⟨row, stateFound, edgeFound⟩ := Option.bind_eq_some_iff.mp found
  simp [edge?, modifyEdge, stateFound, edgeFound]

theorem edge?_modifyEdge_of_ne (draft : Draft κ) {location other : Location}
    (different : location ≠ other) (change : Edge κ → Edge κ) :
    (draft.modifyEdge location change).edge? other = draft.edge? other := by
  simp only [edge?, modifyEdge, List.getElem?_modify]
  by_cases sameState : location.state = other.state
  · have differentIndex : location.transition ≠ other.transition := by
      intro sameIndex
      apply different
      cases location
      cases other
      simp_all
    cases draft.states[other.state]? with
    | none => simp
    | some row => simp [sameState, differentIndex]
  · simp [sameState]

theorem edge?_addState {draft : Draft κ} {location : Location} {edge : Edge κ}
    (found : draft.edge? location = some edge) : draft.addState.edge? location = some edge := by
  obtain ⟨row, stateFound, edgeFound⟩ := Option.bind_eq_some_iff.mp found
  have inside := (List.getElem?_eq_some_iff.mp stateFound).1
  simp [edge?, addState, List.getElem?_append_left inside, stateFound, edgeFound]

theorem edge?_addEdge {draft : Draft κ} {location : Location} {edge : Edge κ}
    (found : draft.edge? location = some edge) (state : StateId) (charClass : CharClass) :
    (draft.addEdge state charClass).edge? location = some edge := by
  obtain ⟨row, stateFound, edgeFound⟩ := Option.bind_eq_some_iff.mp found
  have inside := (List.getElem?_eq_some_iff.mp edgeFound).1
  simp only [edge?, addEdge, List.getElem?_modify, stateFound, Option.map_eq_map,
    Option.map_some, Option.bind_some]
  split
  · rw [List.getElem?_append_left inside, edgeFound]
  · exact edgeFound

theorem edge?_addEdge_new (draft : Draft κ) {state : StateId} (inside : state < draft.states.length)
    (charClass : CharClass) :
    (draft.addEdge state charClass).edge? ⟨state, (draft.edges state).length⟩ =
      some { on := charClass } := by
  simp [edge?, addEdge, edges, List.getElem?_eq_getElem inside]

theorem edge?_new (draft : Draft κ) (state : StateId) :
    draft.edge? ⟨state, (draft.edges state).length⟩ = none := by
  simp only [edge?, edges, List.getD_eq_getElem?_getD]
  cases draft.states[state]? <;> simp

/-- The automaton that a draft amounts to. -/
def automaton (draft : Draft κ) : Automaton κ :=
  ⟨draft.states.map (·.map Edge.resolve)⟩

theorem state_automaton (draft : Draft κ) (state : StateId) :
    draft.automaton.state state = (draft.edges state).map Edge.resolve := by
  simp only [Automaton.state, automaton, edges, List.getD_eq_getElem?_getD, List.getElem?_map]
  cases draft.states[state]? <;> simp

theorem automaton_addState (draft : Draft κ) :
    draft.addState.automaton = draft.automaton.addState := by
  simp [automaton, addState, Automaton.addState]

theorem automaton_addEdge (draft : Draft κ) (state : StateId) (charClass : CharClass) :
    (draft.addEdge state charClass).automaton =
      draft.automaton.addTransition state { on := charClass } := by
  simp only [automaton, addEdge, Automaton.addTransition, Automaton.modifyState,
    Automaton.mk.injEq]
  apply List.ext_getElem?
  intro index
  simp only [List.getElem?_map, List.getElem?_modify]
  cases draft.states[index]? with
  | none => simp
  | some row =>
      by_cases same : state = index <;>
        simp [same, Edge.resolve, Edge.message]

theorem automaton_modifyEdge {draft : Draft κ} {location : Location} {edge : Edge κ}
    (found : draft.edge? location = some edge) {change : Edge κ → Edge κ}
    {resolved : Transition κ → Transition κ}
    (commutes : (change edge).resolve = resolved edge.resolve) :
    (draft.modifyEdge location change).automaton =
      draft.automaton.modifyTransition location resolved := by
  obtain ⟨row, stateFound, edgeFound⟩ := Option.bind_eq_some_iff.mp found
  simp only [automaton, modifyEdge, Automaton.modifyTransition, Automaton.modifyState,
    Automaton.mk.injEq]
  apply List.ext_getElem?
  intro stateIndex
  simp only [List.getElem?_map, List.getElem?_modify]
  by_cases sameState : location.state = stateIndex
  · subst sameState
    simp only [stateFound, ↓reduceIte, Option.map_eq_map, Option.map_some, Option.some.injEq]
    apply List.ext_getElem?
    intro edgeIndex
    simp only [List.getElem?_map, List.getElem?_modify]
    by_cases sameEdge : location.transition = edgeIndex
    · subst sameEdge
      simp [edgeFound, commutes]
    · simp [sameEdge]
  · simp [sameState]

end Draft

/-! ### The agreement of draft and session -/

def live? (opened : OpenTransition) : Option Location :=
  if opened.spent then none else some opened.location

/-- A draft and a session that the same calls have led to. -/
structure Agrees (draft : Draft κ) (session : Session κ) : Prop where
  automaton : session.automaton = draft.automaton
  stateHandles : session.states = draft.stateHandles
  edgeHandles : draft.edgeHandles = session.transitions.map live?
  /-- An edge whose handle is good has neither a kind nor a message. -/
  opened : ∀ (handle : Nat) location, draft.edgeHandles[handle]? = some (some location) →
    ∃ edge, draft.edge? location = some edge ∧ edge.Open
  /-- No two good handles belong to the same edge. -/
  distinct : ∀ (handle other : Nat) location, draft.edgeHandles[handle]? = some (some location) →
    draft.edgeHandles[other]? = some (some location) → handle = other

namespace Agrees

variable {draft : Draft κ} {session : Session κ}

theorem initial : Agrees ({} : Draft κ) Session.initial where
  automaton := rfl
  stateHandles := rfl
  edgeHandles := rfl
  opened := by
    intro handle location given
    simp at given
  distinct := by
    intro handle other location given
    simp at given

theorem useUp (agrees : Agrees draft session) (handle : Nat) :
    Agrees (draft.useUp handle) (session.spend handle) := by
  -- A handle that is good afterwards is another one, and was good before.
  have before : ∀ (other : Nat) location,
      (draft.useUp handle).edgeHandles[other]? = some (some location) →
        draft.edgeHandles[other]? = some (some location) := by
    intro other location given
    simp only [Draft.useUp, List.getElem?_set] at given
    split at given
    · split at given <;> simp at given
    · exact given
  refine ⟨agrees.automaton, agrees.stateHandles, ?_, ?_, ?_⟩
  · simp only [Draft.useUp, Session.spend, agrees.edgeHandles]
    apply List.ext_getElem?
    intro index
    simp only [List.getElem?_set, List.getElem?_map, List.getElem?_modify, List.length_map]
    by_cases same : handle = index
    · subst same
      by_cases inside : handle < session.transitions.length
      · simp [inside, live?]
      · simp [inside]
    · simp [same]
  · intro other location given
    exact agrees.opened other location (before other location given)
  · intro first second location firstGiven secondGiven
    exact agrees.distinct first second location (before first location firstGiven)
      (before second location secondGiven)

theorem addState (agrees : Agrees draft session) :
    Agrees draft.addState { session with automaton := session.automaton.addState } where
  automaton := by rw [agrees.automaton, draft.automaton_addState]
  stateHandles := agrees.stateHandles
  edgeHandles := agrees.edgeHandles
  opened := by
    intro handle location given
    obtain ⟨edge, found, isOpen⟩ := agrees.opened handle location given
    exact ⟨edge, Draft.edge?_addState found, isOpen⟩
  distinct := agrees.distinct

theorem handOut (agrees : Agrees draft session) (state : StateId) :
    Agrees (draft.handOut state) (session.handOut state).1 where
  automaton := agrees.automaton
  stateHandles := by simp [Session.handOut, Draft.handOut, agrees.stateHandles]
  edgeHandles := agrees.edgeHandles
  opened := agrees.opened
  distinct := agrees.distinct

/-- Changing an edge and its transition alike keeps the agreement, as long as an edge whose handle
is good stays open. -/
theorem modify (agrees : Agrees draft session) {location : Location} {edge : Edge κ}
    (found : draft.edge? location = some edge) {change : Edge κ → Edge κ}
    {resolved : Transition κ → Transition κ}
    (commutes : (change edge).resolve = resolved edge.resolve)
    (staysOpen : ∀ handle : Nat, draft.edgeHandles[handle]? = some (some location) →
      (change edge).Open) :
    Agrees (draft.modifyEdge location change)
      { session with automaton := session.automaton.modifyTransition location resolved } where
  automaton := by rw [agrees.automaton, Draft.automaton_modifyEdge found commutes]
  stateHandles := agrees.stateHandles
  edgeHandles := agrees.edgeHandles
  opened := by
    intro handle other given
    by_cases same : location = other
    · subst same
      exact ⟨change edge, Draft.edge?_modifyEdge_same found change, staysOpen handle given⟩
    · obtain ⟨otherEdge, otherFound, isOpen⟩ := agrees.opened handle other given
      refine ⟨otherEdge, ?_, isOpen⟩
      rw [draft.edge?_modifyEdge_of_ne same]
      exact otherFound
  distinct := agrees.distinct

theorem addEdge (agrees : Agrees draft session) {state : StateId}
    (inside : state < session.automaton.size) (charClass : CharClass) :
    Agrees (draft.addEdge state charClass) (session.openOn state charClass).1 := by
  have sizes : draft.states.length = session.automaton.size := by
    simp [agrees.automaton, Automaton.size, Draft.automaton]
  have place : (session.automaton.state state).length = (draft.edges state).length := by
    rw [agrees.automaton, draft.state_automaton, List.length_map]
  have given_cases : ∀ (handle : Nat) location,
      (draft.addEdge state charClass).edgeHandles[handle]? = some (some location) →
        draft.edgeHandles[handle]? = some (some location) ∨
          handle = draft.edgeHandles.length ∧ location = ⟨state, (draft.edges state).length⟩ := by
    intro handle location given
    simp only [Draft.addEdge, List.getElem?_append, List.getElem?_singleton] at given
    split at given
    · exact .inl given
    next outside =>
      split at given
      next last =>
        simp only [Option.some.injEq] at given
        exact .inr ⟨by omega, given.symm⟩
      next => simp at given
  -- The new location has held no edge so far, so no good handle belongs to it.
  have unused : ∀ handle : Nat,
      draft.edgeHandles[handle]? ≠ some (some ⟨state, (draft.edges state).length⟩) := by
    intro handle given
    obtain ⟨edge, found, _⟩ := agrees.opened handle _ given
    rw [draft.edge?_new] at found
    simp at found
  refine ⟨?_, agrees.stateHandles, ?_, ?_, ?_⟩
  · simp only [Session.openOn, Design.on]
    rw [agrees.automaton, draft.automaton_addEdge]
  · simp [Draft.addEdge, Session.openOn, Design.on, agrees.edgeHandles, place, live?]
  · intro handle location given
    rcases given_cases handle location given with old | ⟨_, rfl⟩
    · obtain ⟨edge, found, isOpen⟩ := agrees.opened handle location old
      exact ⟨edge, Draft.edge?_addEdge found state charClass, isOpen⟩
    · exact ⟨_, draft.edge?_addEdge_new (sizes ▸ inside) charClass, rfl, rfl⟩
  · intro first second location firstGiven secondGiven
    rcases given_cases first location firstGiven with firstOld | ⟨firstNew, rfl⟩
    · rcases given_cases second location secondGiven with secondOld | ⟨_, rfl⟩
      · exact agrees.distinct first second location firstOld secondOld
      · exact absurd firstOld (unused first)
    · rcases given_cases second _ secondGiven with secondOld | ⟨secondNew, _⟩
      · exact absurd secondOld (unused second)
      · rw [firstNew, secondNew]

/-! ### Calls -/

theorem withState (agrees : Agrees draft session) {handle : Nat}
    {actDraft : StateId → Draft κ} {act : StateId → Session κ × Reply}
    (acted : ∀ state, session.states[handle]? = some state →
      Agrees (actDraft state) (act state).1) :
    Agrees (draft.withState handle actDraft) (session.withState handle act).1 := by
  unfold Draft.withState Session.withState
  rw [← agrees.stateHandles]
  cases found : session.states[handle]? with
  | none => exact agrees
  | some state => exact acted state found

theorem withEdge (agrees : Agrees draft session) {handle : Nat}
    {actDraft : Location → Draft κ} {act : Location → Session κ × Reply}
    (acted : ∀ location edge, draft.edgeHandles[handle]? = some (some location) →
      draft.edge? location = some edge → edge.Open →
        Agrees (actDraft location) (act location).1) :
    Agrees (draft.withEdge handle actDraft) (session.withTransition handle act).1 := by
  have handles : draft.edgeHandles[handle]? = session.transitions[handle]?.map live? := by
    rw [agrees.edgeHandles, List.getElem?_map]
  unfold Draft.withEdge Session.withTransition
  match given : session.transitions[handle]? with
  | none =>
      simp only [given, Option.map_none] at handles
      simpa only [handles] using agrees
  | some ⟨location, true⟩ =>
      simp only [given, Option.map_some, live?, ↓reduceIte] at handles
      simpa only [handles] using agrees
  | some ⟨location, false⟩ =>
      simp only [given, Option.map_some, live?, Bool.false_eq_true, ↓reduceIte] at handles
      obtain ⟨edge, found, isOpen⟩ := agrees.opened handle location handles
      simpa only [handles] using acted location edge handles found isOpen

theorem not_live_useUp (agrees : Agrees draft session) {handle : Nat} {location : Location}
    (given : draft.edgeHandles[handle]? = some (some location)) (other : Nat) :
    (draft.useUp handle).edgeHandles[other]? ≠ some (some location) := by
  intro otherGiven
  simp only [Draft.useUp, List.getElem?_set] at otherGiven
  split at otherGiven
  · split at otherGiven <;> simp at otherGiven
  next different => exact different (agrees.distinct handle other location given otherGiven)

theorem edit (agrees : Agrees draft session) (handle : Nat)
    {change : Location → Edge κ → Edge κ} {resolved : Location → Transition κ → Transition κ}
    (commutes : ∀ location edge, edge.Open →
      (change location edge).Open ∧
        (change location edge).resolve = resolved location edge.resolve) :
    Agrees (draft.withEdge handle fun location => draft.modifyEdge location (change location))
      (session.edit handle resolved).1 := by
  apply agrees.withEdge
  intro location edge _ found isOpen
  obtain ⟨staysOpen, alike⟩ := commutes location edge isOpen
  exact agrees.modify found alike fun _ _ => staysOpen

theorem complete (agrees : Agrees draft session) {handle : Nat} {location : Location}
    {edge : Edge κ} (given : draft.edgeHandles[handle]? = some (some location))
    (found : draft.edge? location = some edge) {change : Edge κ → Edge κ}
    {resolved : Transition κ → Transition κ}
    (commutes : (change edge).resolve = resolved edge.resolve) :
    Agrees ((draft.useUp handle).modifyEdge location change)
      { session.spend handle with
        automaton := session.automaton.modifyTransition location resolved } :=
  (agrees.useUp handle).modify found commutes fun other otherGiven =>
    absurd otherGiven (agrees.not_live_useUp given other)

/-- Every call keeps the agreement. -/
theorem perform (agrees : Agrees draft session) (valid : session.Valid) (call : Call κ) :
    Agrees (draft.perform call) (session.perform call).1 := by
  cases call with
  | on state charClass =>
      apply agrees.withState
      intro id found
      exact agrees.addEdge (valid.state_lt id (List.mem_of_getElem? found)) charClass
  | ignore handle =>
      apply agrees.edit handle
      intro _ edge isOpen
      exact ⟨⟨isOpen.tokenKind, isOpen.errorMessage⟩, rfl⟩
  | rewind handle =>
      apply agrees.edit handle
      intro _ edge isOpen
      exact ⟨⟨isOpen.tokenKind, isOpen.errorMessage⟩, rfl⟩
  | stay handle =>
      apply agrees.edit handle
      intro location edge isOpen
      exact isOpen.link location.state
  | moveTo handle state =>
      apply agrees.withState
      intro target _
      apply agrees.edit handle
      intro location edge isOpen
      exact isOpen.link target
  | moveToNew handle =>
      apply agrees.withEdge
      intro location edge given found isOpen
      have sizes : draft.states.length = session.automaton.size := by
        simp [agrees.automaton, Automaton.size, Draft.automaton]
      obtain ⟨staysOpen, alike⟩ := isOpen.link draft.states.length
      rw [Automaton.settleNew, ← sizes]
      apply handOut
      exact (agrees.useUp handle).addState.modify (Draft.edge?_addState found) alike
        fun _ _ => staysOpen
  | moveToForeign handle =>
      apply agrees.withEdge
      intro _ _ _ _ _
      exact agrees.useUp handle
  | emit handle kind =>
      apply agrees.withEdge
      intro location edge given found isOpen
      apply agrees.complete given found
      simp [Edge.resolve, Edge.message, isOpen.errorMessage, Transition.deciding]
  | fail handle message =>
      apply agrees.withEdge
      intro location edge given found isOpen
      cases message with
      | nil =>
          have ignored : Edge.resolve { edge with errorMessage := some [] } = edge.resolve := by
            simp [Edge.resolve, Edge.message, isOpen.errorMessage]
          have completed : Agrees ((draft.useUp handle).modifyEdge location
              ({ · with errorMessage := some [] })) { session.spend handle with
                automaton := session.automaton.modifyTransition location id } :=
            agrees.complete given found ignored
          rw [Automaton.modifyTransition_id] at completed
          exact completed
      | cons c rest =>
          apply agrees.complete given found
          simp [Edge.resolve, Edge.message, Transition.deciding]
  | identify state => exact Session.withState_induction agrees fun _ _ => agrees
  | copy state =>
      apply agrees.withState
      intro id _
      exact agrees.handOut id

end Agrees

theorem Agrees.run {draft : Draft κ} {session : Session κ} (agrees : Agrees draft session)
    (valid : session.Valid) (calls : List (Call κ)) :
    Agrees (calls.foldl Draft.perform draft) (session.run calls).1 := by
  induction calls generalizing draft session with
  | nil => exact agrees
  | cons call calls inductionHypothesis =>
      exact inductionHypothesis (agrees.perform valid call) (valid.perform call)

/-- The automaton that calls draw is the one that their blueprint amounts to. -/
theorem automaton_ofCalls (calls : List (Call κ)) :
    Call.automaton calls = (Draft.ofCalls calls).automaton :=
  (Agrees.initial.run .initial calls).automaton

end Blueprint

end LexKit

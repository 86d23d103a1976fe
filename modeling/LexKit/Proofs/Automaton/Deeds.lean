import LexKit.Proofs.Automaton.Handles

/-!
What calls do.

A call names handles, and what it does depends on what these refer to.  Once they are looked up,
five things are left that a call can do to a session, and all but the first of them are told by the
places they touch: the row of a state, the transition of a handle, or the ends of the lists.
-/

namespace LexKit

variable {κ : Type}

/-- A change to a transition. -/
inductive Amendment (κ : Type) where
  | keeping
  | ignoring
  | rewinding
  | deciding (disposition : Disposition κ)

def Amendment.apply : Amendment κ → Transition κ → Transition κ
  | keeping => id
  | ignoring => .ignoring
  | rewinding => .rewinding
  | deciding disposition => .deciding disposition

/-- What a call does once its handles have been looked up. -/
inductive Deed (κ : Type) where
  | idle
  | opening (state : StateId) (charClass : CharClass)
  | amending (handle : Nat) (location : Location) (amendment : Amendment κ) (spends : Bool)
  | extending (handle : Nat) (location : Location)
  | copying (state : StateId)

namespace Deed

/-- The state on which a transition is opened. -/
def state? : Deed κ → Option StateId
  | opening state _ => some state
  | _ => none

/-- The handle of the transition that is changed. -/
def handle? : Deed κ → Option Nat
  | amending handle _ _ _ | extending handle _ => some handle
  | _ => none

end Deed

def OpenTransition.mark (spends : Bool) (opened : OpenTransition) : OpenTransition :=
  { opened with spent := opened.spent || spends }

theorem OpenTransition.mark_true : mark true = ({ · with spent := true }) := by
  funext opened
  simp [mark]

theorem OpenTransition.mark_false : mark false = id := by
  funext opened
  simp [mark]

/-- The state handle that a call uses. -/
def Call.stateHandle? : Call κ → Option Nat
  | .on handle _ | .moveTo _ handle | .identify handle | .copy handle => some handle
  | _ => none

namespace Session

def doing (session : Session κ) : Deed κ → Session κ
  | .idle => session
  | .opening state charClass =>
      { session with
        automaton := session.automaton.addTransition state { on := charClass }
        transitions := session.transitions ++
          [{ location := ⟨state, (session.automaton.state state).length⟩ }] }
  | .amending handle location amendment spends =>
      { session with
        automaton := session.automaton.modifyTransition location amendment.apply
        transitions := session.transitions.modify handle (.mark spends) }
  | .extending handle location =>
      { automaton := session.automaton.settleNew location
        states := session.states ++ [session.automaton.size]
        transitions := session.transitions.modify handle (.mark true) }
  | .copying state => { session with states := session.states ++ [state] }

def atState (session : Session κ) (handle : Nat) (act : StateId → Deed κ) : Deed κ :=
  match session.states[handle]? with
  | some state => act state
  | none => .idle

def atTransition (session : Session κ) (handle : Nat) (act : Location → Deed κ) : Deed κ :=
  match session.transitions[handle]? with
  | some { location, spent := false } => act location
  | _ => .idle

def amendment (session : Session κ) (handle : Nat) (change : Location → Amendment κ)
    (spends : Bool) : Deed κ :=
  session.atTransition handle fun location => .amending handle location (change location) spends

def deed (session : Session κ) : Call κ → Deed κ
  | .on state charClass => session.atState state (.opening · charClass)
  | .ignore handle => session.amendment handle (fun _ => .ignoring) false
  | .rewind handle => session.amendment handle (fun _ => .rewinding) false
  | .stay handle =>
      session.amendment handle (fun location => .deciding (.moveTo location.state)) false
  | .moveTo handle state => session.atState state fun target =>
      session.amendment handle (fun _ => .deciding (.moveTo target)) false
  | .moveToNew handle => session.atTransition handle (.extending handle)
  | .moveToForeign handle => session.amendment handle (fun _ => .keeping) true
  | .emit handle kind => session.amendment handle (fun _ => .deciding (.emit kind)) true
  | .fail handle message => session.amendment handle
      (fun _ => if message.isEmpty then .keeping else .deciding (.fail message)) true
  | .identify state => session.atState state fun _ => .idle
  | .copy state => session.atState state .copying

/-- The state on which a call opens a transition. -/
def opensOn? (session : Session κ) : Call κ → Option StateId
  | .on handle _ => session.states[handle]?
  | _ => none

/-! ### The deed of a call -/

variable {session : Session κ} {handle : Nat}

theorem withState_eq {act : StateId → Session κ × Reply} {does : StateId → Deed κ}
    (acts : ∀ state, (act state).1 = session.doing (does state)) :
    (session.withState handle act).1 = session.doing (session.atState handle does) := by
  unfold withState atState
  cases session.states[handle]? with
  | none => rfl
  | some state => exact acts state

theorem withTransition_eq {act : Location → Session κ × Reply} {does : Location → Deed κ}
    (acts : ∀ location, (act location).1 = session.doing (does location)) :
    (session.withTransition handle act).1 = session.doing (session.atTransition handle does) := by
  unfold withTransition atTransition
  match session.transitions[handle]? with
  | none => rfl
  | some ⟨location, false⟩ => exact acts location
  | some ⟨location, true⟩ => rfl

theorem edit_eq {change : Location → Transition κ → Transition κ} {amend : Location → Amendment κ}
    (same : ∀ location, change location = (amend location).apply) :
    (session.edit handle change).1 = session.doing (session.amendment handle amend false) := by
  apply withTransition_eq
  intro location
  simp [doing, same, OpenTransition.mark_false]

theorem complete_eq {change : Automaton κ → Location → Automaton κ} {reply : Reply}
    {amend : Location → Amendment κ}
    (same : ∀ location, change session.automaton location =
      session.automaton.modifyTransition location (amend location).apply) :
    (session.complete handle change reply).1 =
      session.doing (session.amendment handle amend true) := by
  apply withTransition_eq
  intro location
  simp [doing, same, OpenTransition.mark_true, spend]

theorem perform_eq (session : Session κ) (call : Call κ) :
    (session.perform call).1 = session.doing (session.deed call) := by
  cases call with
  | on handle charClass => exact withState_eq fun _ => rfl
  | ignore handle => exact edit_eq fun _ => rfl
  | rewind handle => exact edit_eq fun _ => rfl
  | stay handle => exact edit_eq fun _ => rfl
  | moveTo handle state =>
      apply withState_eq
      intro target
      exact edit_eq fun _ => rfl
  | moveToNew handle =>
      apply withTransition_eq
      intro location
      simp [doing, handOut, spend, OpenTransition.mark_true]
  | moveToForeign handle =>
      apply complete_eq
      intro location
      exact (session.automaton.modifyTransition_id location).symm
  | emit handle kind => exact complete_eq fun _ => rfl
  | fail handle message =>
      apply complete_eq
      intro location
      unfold Automaton.settleFail
      split_ifs
      · exact (session.automaton.modifyTransition_id location).symm
      · rfl
  | identify handle => exact withState_eq fun _ => rfl
  | copy handle => exact withState_eq fun _ => rfl

/-- Where the deed of a call comes from. -/
inductive DeedOf (session : Session κ) (call : Call κ) : Deed κ → Prop where
  | idle : DeedOf session call .idle
  | opening {handle : Nat} {state : StateId} {charClass : CharClass}
      (isOn : call = .on handle charClass) (found : session.states[handle]? = some state) :
      DeedOf session call (.opening state charClass)
  | amending {handle : Nat} {location : Location} {amendment : Amendment κ} {spends : Bool}
      (acts : call.transitionHandle? = some handle)
      (found : session.locations[handle]? = some location) :
      DeedOf session call (.amending handle location amendment spends)
  | extending {handle : Nat} {location : Location} (isMove : call = .moveToNew handle)
      (found : session.locations[handle]? = some location) :
      DeedOf session call (.extending handle location)
  | copying {handle : Nat} {state : StateId} (found : session.states[handle]? = some state) :
      DeedOf session call (.copying state)

theorem atState_induction {act : StateId → Deed κ} {property : Deed κ → Prop}
    (idle : property .idle)
    (acted : ∀ state, session.states[handle]? = some state → property (act state)) :
    property (session.atState handle act) := by
  unfold atState
  split
  next state found => exact acted state found
  next => exact idle

theorem atTransition_induction {act : Location → Deed κ} {property : Deed κ → Prop}
    (idle : property .idle)
    (acted : ∀ location, session.locations[handle]? = some location → property (act location)) :
    property (session.atTransition handle act) := by
  unfold atTransition
  split
  next location found => exact acted location (getElem?_locations found)
  next => exact idle

theorem deedOf_amendment {call : Call κ} (acts : call.transitionHandle? = some handle)
    (change : Location → Amendment κ) (spends : Bool) :
    session.DeedOf call (session.amendment handle change spends) :=
  atTransition_induction .idle fun _ found => .amending acts found

theorem deedOf_deed (session : Session κ) (call : Call κ) :
    session.DeedOf call (session.deed call) := by
  cases call with
  | on handle charClass => exact atState_induction .idle fun _ found => .opening rfl found
  | ignore handle => exact deedOf_amendment rfl _ _
  | rewind handle => exact deedOf_amendment rfl _ _
  | stay handle => exact deedOf_amendment rfl _ _
  | moveTo handle state =>
      apply atState_induction .idle
      intro target _
      exact deedOf_amendment rfl _ _
  | moveToNew handle => exact atTransition_induction .idle fun _ found => .extending rfl found
  | moveToForeign handle => exact deedOf_amendment rfl _ _
  | emit handle kind => exact deedOf_amendment rfl _ _
  | fail handle message => exact deedOf_amendment rfl _ _
  | identify handle => exact atState_induction .idle fun _ _ => .idle
  | copy handle => exact atState_induction .idle fun _ found => .copying found

theorem DeedOf.opens {call : Call κ} {deed : Deed κ} {state : StateId}
    (isDeed : session.DeedOf call deed) (touches : deed.state? = some state) :
    session.opensOn? call = some state := by
  cases isDeed with
  | opening isOn found =>
      cases touches
      rw [isOn]
      exact found
  | _ => simp [Deed.state?] at touches

theorem DeedOf.acts {call : Call κ} {deed : Deed κ} (isDeed : session.DeedOf call deed)
    (touches : deed.handle? = some handle) : call.transitionHandle? = some handle := by
  cases isDeed with
  | amending acts found =>
      cases touches
      exact acts
  | extending isMove found =>
      cases touches
      rw [isMove]
      rfl
  | _ => simp [Deed.handle?] at touches

/-- What a call does depends only on what its own handles refer to. -/
theorem deed_congr {other : Session κ} {call : Call κ}
    (states : ∀ handle ∈ call.stateHandle?, other.states[handle]? = session.states[handle]?)
    (transitions : ∀ handle ∈ call.transitionHandle?,
      other.transitions[handle]? = session.transitions[handle]?) :
    other.deed call = session.deed call := by
  cases call with
  | on state charClass => simp only [deed, atState, states state rfl]
  | moveTo handle state =>
      simp only [deed, amendment, atState, atTransition, states state rfl, transitions handle rfl]
  | identify state => simp only [deed, atState, states state rfl]
  | copy state => simp only [deed, atState, states state rfl]
  | _ handle => simp only [deed, amendment, atTransition, transitions handle rfl]

end Session

end LexKit

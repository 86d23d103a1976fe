import LexKit.Automaton.Design

/-!
Drawing through handles.

A session keeps the automaton under construction together with the handles that have been given
out: state handles, which never expire, and transition handles, which are spent by the calls that
complete a transition.  Handles of each sort are numbered from zero in the order in which they were
given out; state handle zero belongs to the start state.
-/

namespace LexKit

/-- A call on a session.  Numbers are handles. -/
inductive Call (κ : Type) where
  /-- Open a transition on a state. -/
  | on (state : Nat) (charClass : CharClass)
  /-- Consume the character and leave it out of the token. -/
  | ignore (transition : Nat)
  /-- Look at the character again and leave it out of the token. -/
  | rewind (transition : Nat)
  /-- Lead back to the state of the transition itself. -/
  | stay (transition : Nat)
  /-- Lead to a state. -/
  | moveTo (transition state : Nat)
  /-- Lead to a new state.  Completes the transition. -/
  | moveToNew (transition : Nat)
  /-- Lead to a state of another automaton, which is refused.  Completes the transition. -/
  | moveToForeign (transition : Nat)
  /-- Finish a token.  Completes the transition. -/
  | emit (transition : Nat) (kind : κ)
  /-- Fail with a message.  Completes the transition. -/
  | fail (transition : Nat) (message : Text)
  /-- Ask for the number of a state. -/
  | identify (state : Nat)
  /-- Ask for one more handle of a state. -/
  | copy (state : Nat)
  deriving DecidableEq

/-- The answer to a call. -/
inductive Reply where
  /-- A transition was opened at a location, with a new handle. -/
  | opened (handle : Nat) (location : Location)
  /-- The transition at a location was edited, and its handle is still good. -/
  | edited (location : Location)
  /-- The transition is complete. -/
  | completed
  /-- A new handle of a state. -/
  | reached (handle : Nat) (state : StateId)
  | identified (state : StateId)
  /-- A state of another automaton can not be linked. -/
  | foreignState
  /-- The handle was spent by an earlier call. -/
  | spent
  /-- No such handle was given out. -/
  | unknownHandle
  deriving DecidableEq

/-- What is said about a link to a state of another automaton. -/
def foreignStateMessage : Text :=
  "states from different automata can't be linked".toList

/-- A transition that was opened, and whether its handle has been spent. -/
structure OpenTransition where
  location : Location
  spent : Bool := false
  deriving DecidableEq

/-- An automaton under construction, with the handles given out so far. -/
structure Session (κ : Type) where
  automaton : Automaton κ := .empty
  states : List StateId := [StateId.start]
  transitions : List OpenTransition := []
  deriving DecidableEq

namespace Session

variable {κ : Type}

def initial : Session κ := {}

def withState (session : Session κ) (handle : Nat)
    (act : StateId → Session κ × Reply) : Session κ × Reply :=
  match session.states[handle]? with
  | some state => act state
  | none => (session, .unknownHandle)

/-- Act on the transition of a handle that has not been spent. -/
def withTransition (session : Session κ) (handle : Nat)
    (act : Location → Session κ × Reply) : Session κ × Reply :=
  match session.transitions[handle]? with
  | some { location, spent := false } => act location
  | some { spent := true, .. } => (session, .spent)
  | none => (session, .unknownHandle)

def spend (session : Session κ) (handle : Nat) : Session κ :=
  { session with
    transitions := session.transitions.modify handle ({ · with spent := true }) }

def handOut (session : Session κ) (state : StateId) : Session κ × Reply :=
  ({ session with states := session.states ++ [state] }, .reached session.states.length state)

def openOn (session : Session κ) (state : StateId) (charClass : CharClass) :
    Session κ × Reply :=
  let (location, automaton) := Design.on state charClass session.automaton
  ({ session with automaton, transitions := session.transitions ++ [{ location }] },
    .opened session.transitions.length location)

/-- Edit the transition of a handle and keep the handle. -/
def edit (session : Session κ) (handle : Nat)
    (change : Location → Transition κ → Transition κ) : Session κ × Reply :=
  session.withTransition handle fun location =>
    ({ session with automaton := session.automaton.modifyTransition location (change location) },
      .edited location)

/-- Change the automaton at the transition of a handle and spend the handle. -/
def complete (session : Session κ) (handle : Nat)
    (change : Automaton κ → Location → Automaton κ) (reply : Reply) : Session κ × Reply :=
  session.withTransition handle fun location =>
    ({ session.spend handle with automaton := change session.automaton location }, reply)

def perform (session : Session κ) : Call κ → Session κ × Reply
  | .on state charClass => session.withState state (session.openOn · charClass)
  | .ignore transition => session.edit transition fun _ => .ignoring
  | .rewind transition => session.edit transition fun _ => .rewinding
  | .stay transition => session.edit transition fun location => .deciding (.moveTo location.state)
  | .moveTo transition state => session.withState state fun target =>
      session.edit transition fun _ => .deciding (.moveTo target)
  | .moveToNew transition => session.withTransition transition fun location =>
      { session.spend transition with automaton := session.automaton.settleNew location }.handOut
        session.automaton.size
  | .moveToForeign transition => session.complete transition (fun automaton _ => automaton)
      .foreignState
  | .emit transition kind => session.complete transition
      (fun automaton location => automaton.settle location (.emit kind)) .completed
  | .fail transition message => session.complete transition
      (fun automaton location => automaton.settleFail location message) .completed
  | .identify state => session.withState state fun id => (session, .identified id)
  | .copy state => session.withState state session.handOut

def run (session : Session κ) : List (Call κ) → Session κ × List Reply
  | [] => (session, [])
  | call :: calls =>
      let (next, reply) := session.perform call
      let (last, replies) := next.run calls
      (last, reply :: replies)

end Session

/-- The automaton that calls draw from an empty session. -/
def Call.automaton {κ : Type} (calls : List (Call κ)) : Automaton κ :=
  (Session.initial.run calls).1.automaton

end LexKit

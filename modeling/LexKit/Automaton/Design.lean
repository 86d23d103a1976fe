import LexKit.Automaton.Basic

/-!
Drawing an automaton step by step.

A design starts from an empty start state.  Each transition is first opened on a state, where it
takes its place after the earlier ones, and is then given its effect on the input and its
disposition.  A later decision on the same transition replaces an earlier one.
-/

namespace LexKit

namespace Transition

variable {κ : Type}

/-- The character is consumed and left out of the token. -/
def ignoring (transition : Transition κ) : Transition κ :=
  { transition with includes := false, rereads := false }

/-- The character is left out of the token and looked at again. -/
def rewinding (transition : Transition κ) : Transition κ :=
  { transition with includes := false, rereads := true }

/-- The transition has the given disposition, whatever it had before. -/
def deciding (disposition : Disposition κ) (transition : Transition κ) : Transition κ :=
  { transition with disposition := some disposition }

end Transition

namespace Automaton

variable {κ : Type}

def settle (automaton : Automaton κ) (location : Location) (disposition : Disposition κ) :
    Automaton κ :=
  automaton.modifyTransition location (.deciding disposition)

/-- Let a transition lead to a new state; its number is the old size. -/
def settleNew (automaton : Automaton κ) (location : Location) : Automaton κ :=
  automaton.addState.settle location (.moveTo automaton.size)

/-- Let a transition fail; without a message there is nothing to fail with, and nothing changes. -/
def settleFail (automaton : Automaton κ) (location : Location) (message : Text) : Automaton κ :=
  if message.isEmpty then automaton else automaton.settle location (.fail message)

end Automaton

/-- Steps of drawing that yield a result. -/
abbrev Design (κ : Type) := StateM (Automaton κ)

namespace Design

variable {κ : Type}

/-- Open a transition on a state, behind the transitions that it already has. -/
def on (state : StateId) (charClass : CharClass) : Design κ Location := fun automaton =>
  (⟨state, (automaton.state state).length⟩, automaton.addTransition state { on := charClass })

/-- Let the transition look at its character again and leave it out of the token. -/
def rewind (location : Location) : Design κ Unit :=
  modify (·.modifyTransition location .rewinding)

def moveTo (location : Location) (state : StateId) : Design κ Unit :=
  modify (·.settle location (.moveTo state))

def stay (location : Location) : Design κ Unit :=
  moveTo location location.state

def moveToNew (location : Location) : Design κ StateId := fun automaton =>
  (automaton.size, automaton.settleNew location)

def emit (location : Location) (kind : κ) : Design κ Unit :=
  modify (·.settle location (.emit kind))

def fail (location : Location) (message : Text) : Design κ Unit :=
  modify (·.settleFail location message)

/-! ### Whole transitions -/

def onMoveToNew (state : StateId) (charClass : CharClass) : Design κ StateId := do
  moveToNew (← on state charClass)

def onMoveTo (state : StateId) (charClass : CharClass) (target : StateId) : Design κ Unit := do
  moveTo (← on state charClass) target

def onStay (state : StateId) (charClass : CharClass) : Design κ Unit := do
  stay (← on state charClass)

def onEmit (state : StateId) (charClass : CharClass) (kind : κ) : Design κ Unit := do
  emit (← on state charClass) kind

def onFail (state : StateId) (charClass : CharClass) (message : Text) : Design κ Unit := do
  fail (← on state charClass) message

/-- Whatever comes, finish the token in front of it.  This is the last transition of a state. -/
def otherwiseEmit (state : StateId) (kind : κ) : Design κ Unit := do
  let location ← on state .any
  rewind location
  emit location kind

def automaton (design : Design κ Unit) : Automaton κ :=
  (design.run Automaton.empty).2

end Design

end LexKit

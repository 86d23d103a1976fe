import LexKit.Automaton.Basic
import LexKit.Token.Kind

/-!
The printed form of an automaton: one line for each transition, in the order of states and then of
transitions.  As long as kinds have names of their own, each on one line, nothing is lost in print.
-/

namespace LexKit

variable {κ : Type} [TokenKind κ]

/-- What happens to the character, unless it is consumed and becomes part of the token. -/
def Transition.renderFlags (transition : Transition κ) : Text :=
  match transition.includes, transition.rereads with
  | true, false => []
  | false, false => " (ignore)".toList
  | false, true => " (ignore, reread)".toList
  | true, true => " (reread)".toList

/-- What happens next, behind an arrow of its own for each disposition. -/
def Disposition.render : Disposition κ → Text
  | moveTo state => " -> ".toList ++ state.render
  | emit kind => " => ".toList ++ TokenKind.name kind
  | fail message => " !! \"".toList ++ escapeText message ++ ['"']

/-- A transition as it is shown; one that is undecided ends in question marks. -/
def Transition.render (transition : Transition κ) : Text :=
  transition.on.render ++ transition.renderFlags ++
    match transition.disposition with
    | some disposition => disposition.render
    | none => " ??".toList

namespace Automaton

def renderState (id : StateId) (state : State κ) : Text :=
  match state with
  | [] => Text.line (id.render ++ ": (no transitions)".toList)
  | transitions => transitions.flatMap fun transition =>
      Text.line (id.render ++ ": ".toList ++ transition.render)

def render (automaton : Automaton κ) : Text :=
  automaton.states.zipIdx.flatMap fun (state, id) => renderState id state

end Automaton

end LexKit

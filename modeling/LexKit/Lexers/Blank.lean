import LexKit.Automaton.Design

/-!
White space, which both lexers treat alike.
-/

namespace LexKit

def blankCharacters : Text := " \t\r\n".toList

/-- From the start state, a run of white space is one token of the given kind. -/
def Design.blanks {κ : Type} (kind : κ) : Design κ Unit := do
  let blank ← onMoveToNew StateId.start (.oneOf blankCharacters)
  onStay blank (.oneOf blankCharacters)
  otherwiseEmit blank kind

end LexKit

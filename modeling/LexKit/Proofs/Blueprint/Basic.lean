import LexKit.Automaton.Session
import LexKit.Scan.Run

/-!
The blueprint of the scanner.

A blueprint describes the same scanner by other means.  An edge has a field of its own for the next
state, for the kind of token and for the message of an error; calls fill these fields one by one,
and only the driver decides which of them counts.  The driver knows its place as a position, which
may come to lie behind the end of the text, and keeps a flag for the end of the input.
-/

namespace LexKit.Blueprint

variable {κ : Type}

/-! ### Edges -/

/-- An edge out of a state.  Its three optional fields are independent of each other. -/
structure Edge (κ : Type) where
  on : CharClass
  includes : Bool := true
  rereads : Bool := false
  nextState : Option StateId := none
  tokenKind : Option κ := none
  errorMessage : Option Text := none

namespace Edge

/-- Whether an edge reacts to an input: the rules are tried in order. -/
def reacts (edge : Edge κ) (input : Option Char) : Bool :=
  if edge.on = .any then true
  else
    match input with
    | none => edge.on = .endOfInput
    | some c =>
        if isLowerLetter c ∧ edge.on ∈ [.letterOrDigit, .letter, .lowerLetter] then true
        else if isUpperLetter c ∧ edge.on ∈ [.letterOrDigit, .letter, .upperLetter] then true
        else if isDecimalDigit c ∧ edge.on ∈ [.letterOrDigit, .digit] then true
        else
          match edge.on with
          | .oneOf characters => characters.contains c
          | _ => false

/-- The message of an edge; an absent one is as good as an empty one. -/
def message (edge : Edge κ) : Text :=
  edge.errorMessage.getD []

end Edge

/-! ### Drafting -/

/-- A blueprint under construction.  A handle of an edge that has been used up holds nothing. -/
structure Draft (κ : Type) where
  states : List (List (Edge κ)) := [[]]
  stateHandles : List StateId := [StateId.start]
  edgeHandles : List (Option Location) := []

namespace Draft

def edges (draft : Draft κ) (state : StateId) : List (Edge κ) :=
  draft.states.getD state []

def withState (draft : Draft κ) (handle : Nat) (act : StateId → Draft κ) : Draft κ :=
  match draft.stateHandles[handle]? with
  | some state => act state
  | none => draft

def withEdge (draft : Draft κ) (handle : Nat) (act : Location → Draft κ) : Draft κ :=
  match draft.edgeHandles[handle]? with
  | some (some location) => act location
  | _ => draft

/-- Add an edge without any field filled, and give out its handle. -/
def addEdge (draft : Draft κ) (state : StateId) (charClass : CharClass) : Draft κ :=
  { draft with
    states := draft.states.modify state (· ++ [{ on := charClass }])
    edgeHandles := draft.edgeHandles ++ [some ⟨state, (draft.edges state).length⟩] }

def modifyEdge (draft : Draft κ) (location : Location) (change : Edge κ → Edge κ) : Draft κ :=
  { draft with
    states := draft.states.modify location.state (·.modify location.transition change) }

def useUp (draft : Draft κ) (handle : Nat) : Draft κ :=
  { draft with edgeHandles := draft.edgeHandles.set handle none }

def addState (draft : Draft κ) : Draft κ :=
  { draft with states := draft.states ++ [[]] }

def handOut (draft : Draft κ) (state : StateId) : Draft κ :=
  { draft with stateHandles := draft.stateHandles ++ [state] }

/-- What a call does to a draft.  Each call sets fields of its own and leaves the others alone. -/
def perform (draft : Draft κ) : Call κ → Draft κ
  | .on state charClass => draft.withState state (draft.addEdge · charClass)
  | .ignore edge => draft.withEdge edge fun location =>
      draft.modifyEdge location ({ · with includes := false, rereads := false })
  | .rewind edge => draft.withEdge edge fun location =>
      draft.modifyEdge location ({ · with includes := false, rereads := true })
  | .stay edge => draft.withEdge edge fun location =>
      draft.modifyEdge location ({ · with nextState := some location.state })
  | .moveTo edge state => draft.withState state fun target => draft.withEdge edge fun location =>
      draft.modifyEdge location ({ · with nextState := some target })
  | .moveToNew edge => draft.withEdge edge fun location =>
      (((draft.useUp edge).addState).modifyEdge location
        ({ · with nextState := some draft.states.length })).handOut draft.states.length
  | .moveToForeign edge => draft.withEdge edge fun _ => draft.useUp edge
  | .emit edge kind => draft.withEdge edge fun location =>
      (draft.useUp edge).modifyEdge location ({ · with tokenKind := some kind })
  | .fail edge message => draft.withEdge edge fun location =>
      (draft.useUp edge).modifyEdge location ({ · with errorMessage := some message })
  | .identify _ => draft
  | .copy state => draft.withState state draft.handOut

/-- The blueprint that calls draw. -/
def ofCalls (calls : List (Call κ)) : Draft κ :=
  calls.foldl perform {}

end Draft

/-! ### Driving -/

structure Scanner (κ : Type) where
  state : StateId
  position : Nat
  endOfInput : Bool
  buffer : Text
  tokens : List (Token κ)

/-- What the driver says in the end: all tokens, or an error with its state and position. -/
inductive Verdict (κ : Type) where
  | tokens (tokens : List (Token κ))
  | error (cause : FaultCause) (state : StateId) (position : Nat)
  deriving DecidableEq

def Scanner.initial (text : Text) : Scanner κ :=
  ⟨StateId.start, 0, text.isEmpty, [], []⟩

namespace Draft

/-- Take an edge.  A message comes first, then the kind of a token, then the next state. -/
def follow (text : Text) (scanner : Scanner κ) (character : Option Char) (edge : Edge κ) :
    Scanner κ ⊕ Verdict κ :=
  if edge.message ≠ [] then
    .inr (.error (.explicit edge.message) scanner.state scanner.position)
  else
    let position := if edge.rereads then scanner.position else scanner.position + 1
    let endOfInput := decide (text.length ≤ position)
    let buffer := if edge.includes then scanner.buffer ++ character.toList else scanner.buffer
    match edge.tokenKind with
    | some kind =>
        .inl ⟨StateId.start, position, endOfInput, [], scanner.tokens ++ [⟨kind, buffer⟩]⟩
    | none =>
        match edge.nextState with
        | some next => .inl ⟨next, position, endOfInput, buffer, scanner.tokens⟩
        | none => .inr (.error .missingDestination scanner.state scanner.position)

/-- One round of the driver, which goes on while the position is not behind the end of the text. -/
def step (draft : Draft κ) (text : Text) (scanner : Scanner κ) : Scanner κ ⊕ Verdict κ :=
  if text.length < scanner.position then .inr (.tokens scanner.tokens)
  else if scanner.state = StateId.start ∧ scanner.endOfInput then .inr (.tokens scanner.tokens)
  else
    let character := if scanner.endOfInput then none else text[scanner.position]?
    match (draft.edges scanner.state).find? (·.reacts character) with
    | some edge => follow text scanner character edge
    | none => .inr (.error (.unmatched character) scanner.state scanner.position)

/-- The verdict of the driver, if it comes to one within a number of rounds. -/
def runFor (draft : Draft κ) (text : Text) : Nat → Scanner κ → Option (Verdict κ)
  | 0, _ => none
  | rounds + 1, scanner =>
      match draft.step text scanner with
      | .inl next => draft.runFor text rounds next
      | .inr verdict => some verdict

/-- The driver comes to a verdict on a text, in however many rounds. -/
def Yields (draft : Draft κ) (text : Text) (verdict : Verdict κ) : Prop :=
  ∃ rounds, draft.runFor text rounds (.initial text) = some verdict

/-- The driver never comes to a verdict on a text. -/
def NeverEnds (draft : Draft κ) (text : Text) : Prop :=
  ∀ rounds, draft.runFor text rounds (.initial text) = none

end Draft

end LexKit.Blueprint

import LexKit.Automaton.Basic
import LexKit.Scan.Cursor
import LexKit.Scan.Fault
import LexKit.Token.Basic

/-!
Running an automaton over a text.

The run is a sequence of configurations.  In each one the first transition that handles the input
is taken, and its disposition says whether the run goes on.  Two rules end a run well: being in the
start state at the end of the text, and consuming the end of the text in any state.

A transition that rereads its character need not make progress, so a run may never end.  The
configurations that it can pass before it repeats a state at the same place are bounded by the
number of states and of places; `tokenize` follows the run that far and reports a run that goes on
as divergent.
-/

namespace LexKit

/-- Where a run is: the state, the place in the text, the characters collected for the next token,
and the tokens that are finished. -/
structure Config (κ : Type) where
  state : StateId
  cursor : Cursor
  pending : Array Char
  tokens : Array (Token κ)
  deriving DecidableEq

inductive Progress (κ : Type) where
  | running (config : Config κ)
  | finished (tokens : List (Token κ))
  | failed (fault : Fault)
  deriving DecidableEq

namespace Transition

variable {κ : Type}

def move (transition : Transition κ) (cursor : Cursor) : Cursor :=
  if transition.rereads then cursor else cursor.step

/-- The characters collected after the transition.  The end of the text adds nothing. -/
def collect (transition : Transition κ) (input : Option Char) (pending : Array Char) :
    Array Char :=
  match transition.includes, input with
  | true, some c => pending.push c
  | _, _ => pending

end Transition

namespace Config

variable {κ : Type}

def initial (text : Text) : Config κ :=
  ⟨StateId.start, .ofText text, #[], #[]⟩

/-- Whether the run is at a clean end between tokens. -/
def isDone (config : Config κ) : Bool :=
  config.state == StateId.start && config.cursor.atEnd

def fault (config : Config κ) (cause : FaultCause) : Fault :=
  ⟨cause, config.cursor.pos, config.cursor.index, config.state⟩

/-- What a transition does with the input, whatever happens next. -/
def consume (config : Config κ) (transition : Transition κ) : Config κ :=
  match config with
  | ⟨state, cursor, pending, tokens⟩ =>
      ⟨state, transition.move cursor, transition.collect cursor.peek? pending, tokens⟩

/-- Go on in a state with the characters collected so far. -/
def enter (config : Config κ) (state : StateId) : Config κ :=
  { config with state }

/-- Make a token of the characters collected so far and start over. -/
def finish (config : Config κ) (kind : κ) : Config κ :=
  match config with
  | ⟨_, cursor, pending, tokens⟩ =>
      ⟨StateId.start, cursor, #[], tokens.push ⟨kind, pending.toList⟩⟩

/-- Go on from a configuration, unless the run has just ended there. -/
def proceed (config : Config κ) (ended : Bool) : Progress κ :=
  if ended then .finished config.tokens.toList else .running config

/-- Take a transition.  A run that consumes the end of the text ends with it. -/
def follow (config : Config κ) (transition : Transition κ) : Progress κ :=
  let ended := config.cursor.atEnd && !transition.rereads
  match transition.disposition with
  | some (.moveTo state) => ((config.consume transition).enter state).proceed ended
  | some (.emit kind) => ((config.consume transition).finish kind).proceed ended
  | some (.fail message) => .failed (config.fault (.explicit message))
  | none => .failed (config.fault .missingDestination)

end Config

inductive Outcome (κ : Type) where
  | accepted (tokens : List (Token κ))
  | rejected (fault : Fault)
  | divergent
  deriving DecidableEq

namespace Automaton

variable {κ : Type}

def step (automaton : Automaton κ) (config : Config κ) : Progress κ :=
  if config.isDone then .finished config.tokens.toList
  else
    match automaton.select? config.state config.cursor.peek? with
    | some transition => config.follow transition
    | none => .failed (config.fault (.unmatched config.cursor.peek?))

/-- Follow a run for at most the given number of steps. -/
def runFor (automaton : Automaton κ) : Nat → Config κ → Outcome κ
  | 0, _ => .divergent
  | fuel + 1, config =>
      match automaton.step config with
      | .running next => automaton.runFor fuel next
      | .finished tokens => .accepted tokens
      | .failed fault => .rejected fault

/-- How many configurations with a state and a place of their own a run over a text can pass. -/
def stepBound (automaton : Automaton κ) (text : Text) : Nat :=
  automaton.size * (text.length + 1)

/-- Divide a whole text into tokens. -/
def tokenize (automaton : Automaton κ) (text : Text) : Outcome κ :=
  automaton.runFor (automaton.stepBound text) (.initial text)

end Automaton

end LexKit

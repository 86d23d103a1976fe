import LexKit.Automaton.Dump
import LexKit.Program.Arguments
import LexKit.Program.Failure
import LexKit.Program.Screen
import LexKit.Scan.Run
import LexKit.Token.Document

/-!
The program: from the command line and the bytes of its input to what it prints.

The result is `none` when the automaton never finishes with the text.
-/

namespace LexKit

/-- What a run of the program leaves behind. -/
structure Report where
  code : Nat
  output : Text := []
  errors : Text := []
  deriving DecidableEq

namespace Report

/-- A report with something printed in front. -/
def prepend (report : Report) (output : Text) : Report :=
  { report with output := output ++ report.output }

/-- The report of a failure. -/
def ofFailure (failure : Failure) : Report :=
  { code := 1
    errors := Text.line (Screen.paint .red "Error".toList ++ ": ".toList ++ failure.render) }

end Report

namespace Program

/-- The name that stands for the standard input in messages. -/
def standardInputName : Text := "<stdin>".toList

section

variable {κ : Type} [TokenKind κ]

/-- The printed automaton between two rules. -/
def automatonSection (automaton : Automaton κ) : Text :=
  Text.line Screen.separator ++ automaton.render ++ Text.line Screen.separator

/-- The warning about a transition that is undecided. -/
def undecidedWarning (location : Location) : Text :=
  Text.line (Screen.paint .yellow "Warning".toList ++ ": ".toList ++ location.render ++
    " neither returns, fails, nor leads to a state".toList)

/-- The report on an automaton without any input: every undecided transition is a warning. -/
def checkReport (automaton : Automaton κ) : Report :=
  match automaton.check with
  | .ok () => { code := 0 }
  | .error undecided => { code := 2, errors := undecided.flatMap undecidedWarning }

/-- A token on a line of its own. -/
def tokenLine (token : Token κ) : Text :=
  Text.line (Screen.paint .blue (TokenKind.name token.kind) ++ [' '] ++
    Screen.bold (doubleQuoted token.value))

/-- The printed tokens, one on each line or as a JSON document. -/
def tokenSection (json : Bool) (queue : TokenQueue κ) : Text :=
  if json then Text.line queue.toPrettyJson else queue.tokens.flatMap tokenLine

/-- The report on the text of an input. -/
def textReport (automaton : Automaton κ) (options : Options) (path text : Text) :
    Option Report :=
  match automaton.tokenize text with
  | .accepted tokens =>
      let queue := TokenQueue.ofTokens tokens
      let kept := if options.keepTrivia then queue else queue.withoutTrivia
      some { code := 0, output := tokenSection options.json kept }
  | .rejected fault => some (.ofFailure (.scan path fault))
  | .divergent => none

/-- The report on an input, given as bytes or as the reason for which there are none. -/
def inputReport (automaton : Automaton κ) (options : Options)
    (input : Except ReadError ByteArray) : Option Report :=
  let path := options.input.getD standardInputName
  match input.bind decodeUtf8 with
  | .ok text => textReport automaton options path text
  | .error error => some (.ofFailure (.input path error.message))

/-- Do with an automaton what the options ask for.  A mere check does not look at the input. -/
def runWith (automaton : Automaton κ) (options : Options)
    (input : Except ReadError ByteArray) : Option Report :=
  let shown := if options.automaton then automatonSection automaton else []
  let report :=
    if options.check then some (checkReport automaton)
    else inputReport automaton options input
  report.map (·.prepend shown)

end

/-- Do with the lexer of the options what they ask for. -/
def runLexer (options : Options) (input : Except ReadError ByteArray) : Option Report :=
  match options.lexer with
  | .arithmetic => runWith Arithmetic.automaton options input
  | .json => runWith Json.automaton options input

/-- Answer a command line, leaving the work on an input to `work`. -/
def answer (arguments : List Text) (work : Options → Option Report) : Option Report :=
  match Command.parse arguments with
  | .error error => some { code := 1, errors := error.message }
  | .ok .help => some { code := 0, output := Text.line helpText }
  | .ok .version => some { code := 0, output := Text.line versionText }
  | .ok (.run options) => work options

end Program

end LexKit

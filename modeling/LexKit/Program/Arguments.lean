import LexKit.Lexers.Catalog

/-!
The command line.

Arguments are read from left to right.  An argument that starts with a hyphen is a switch, unless it
is a lone hyphen; every other argument is the value that an earlier switch waits for, or else the
path of the input.  Behind the first double hyphen every argument is a path.  A request for help or for
the version is answered as soon as it is met; all other checks wait for the last argument.
-/

namespace LexKit

/-- The switches that are remembered.  They are listed by the names under which usage messages sort
them. -/
inductive Switch where
  | automaton
  | check
  | json
  | lexer
  | keepTrivia
  deriving DecidableEq

namespace Switch

/-- All switches, in the order of usage messages. -/
def all : List Switch := [automaton, check, json, lexer, keepTrivia]

def name : Switch → Text
  | automaton => "automaton".toList
  | check => "check".toList
  | json => "json".toList
  | lexer => "lexer".toList
  | keepTrivia => "keep-trivia".toList

def ofName? (name : Text) : Option Switch :=
  all.find? (·.name == name)

/-- A switch as it is shown, with its value if it has one. -/
def render (switch : Switch) : Text :=
  "--".toList ++ switch.name ++ if switch = lexer then " <lexer>".toList else []

end Switch

/-- What the program is to do with an input. -/
structure Options where
  lexer : Lexer := .standard
  json : Bool := false
  keepTrivia : Bool := false
  check : Bool := false
  automaton : Bool := false
  /-- The path of the input; without one the standard input is read. -/
  input : Option Text := none
  deriving DecidableEq

/-- What the command line asks for. -/
inductive Command where
  | help
  | version
  | run (options : Options)
  deriving DecidableEq

/-- Why a command line makes no sense.  Together with the cause goes the list of the switches that
had been used by then, which the usage message repeats. -/
inductive UsageError where
  | unknownArgument (argument : Text) (used : List Switch)
  | missingValue (used : List Switch)
  | repeated (switch : Switch) (used : List Switch)
  | unknownLexer (name : Text)
  deriving DecidableEq

def programName : Text := "dfalex".toList

def versionText : Text := "dfalex 0.1.0".toList

def helpText : Text :=
  "dfalex 0.1.0
Lexical analysis toolkit driven by declaratively built deterministic finite automata

USAGE:
    dfalex [FLAGS] [OPTIONS] [INPUT]

FLAGS:
        --automaton      Print the AUTOMATON
        --check          Only check the automaton, without reading any input
    -h, --help           Prints help information
        --json           Print the tokens as JSON
        --keep-trivia    Keep whitespace tokens
    -V, --version        Prints version information

OPTIONS:
    -l, --lexer <lexer>    The tokenizer to use: arithmetic (default) or json

ARGS:
    <INPUT>    The file to tokenize, stdin if absent".toList

namespace UsageError

/-- The form of a command line: the switches that were used, or everything there is. -/
def usage (used : List Switch) : Text :=
  programName ++
    if used.isEmpty then " [FLAGS] [OPTIONS] [INPUT]".toList
    else (Switch.all.filter used.contains).flatMap fun switch => ' ' :: switch.render

/-- A complaint followed by the form of a command line. -/
def withUsage (complaint : Text) (used : List Switch) : Text :=
  "error: ".toList ++ complaint ++ "\n\nUSAGE:\n    ".toList ++ usage used ++
    "\n\nFor more information try --help\n".toList

/-- What is said about a command line that makes no sense. -/
def message : UsageError → Text
  | unknownArgument argument used =>
      withUsage ("Found argument '".toList ++ argument ++
        "' which wasn't expected, or isn't valid in this context".toList) used
  | missingValue used =>
      withUsage ("The argument '".toList ++ Switch.lexer.render ++
        "' requires a value but none was supplied".toList) used
  | repeated switch used =>
      withUsage ("The argument '".toList ++ switch.render ++
        "' was provided more than once, but cannot be used multiple times".toList) used
  | unknownLexer name => Text.line ("error: ".toList ++ unknownLexerMessage name)

end UsageError

/-- What has been read of a command line. -/
structure ArgumentState where
  /-- The switches met, in order. -/
  used : List Switch := []
  /-- The values given for the lexer, in order. -/
  lexerNames : List Text := []
  input : Option Text := none
  /-- Whether the last switch waits for the name of a lexer. -/
  awaitsLexer : Bool := false
  /-- Whether a double hyphen has been met. -/
  switchesEnded : Bool := false
  deriving DecidableEq

/-- What ends the reading of a command line before the last argument. -/
inductive EarlyEnd where
  | help
  | version
  | unknownArgument (argument : Text) (used : List Switch)
  deriving DecidableEq

namespace ArgumentState

def refuse (state : ArgumentState) (argument : Text) : Except EarlyEnd ArgumentState :=
  .error (.unknownArgument argument state.used)

/-- Note the switch for the lexer, whose value is at hand or still to come. -/
def addLexer (state : ArgumentState) (value : Option Text) : ArgumentState :=
  { state with
    used := state.used ++ [.lexer]
    lexerNames := state.lexerNames ++ (value.map (·.dropWhile (· == '='))).toList
    awaitsLexer := value.isNone }

/-- Read a long switch, given without its hyphens.  What follows an equals sign is a value, and
switches without a value do not look at it. -/
def readLong (state : ArgumentState) (argument : Text) : Except EarlyEnd ArgumentState :=
  let name := argument.takeWhile (· != '=')
  if name = "help".toList then .error .help
  else if name = "version".toList then .error .version
  else match Switch.ofName? name with
    | some .lexer => .ok (state.addLexer (argument.dropWhile (· != '=')).tail?)
    | some switch => .ok { state with used := state.used ++ [switch], awaitsLexer := false }
    | none => state.refuse ("--".toList ++ name)

/-- Read a short switch, given without its hyphen.  What follows the letter is its value. -/
def readShort (state : ArgumentState) (letter : Char) (value : Text) :
    Except EarlyEnd ArgumentState :=
  if letter = 'h' then .error .help
  else if letter = 'V' then .error .version
  else if letter = 'l' then
    .ok (state.addLexer (if value.isEmpty then none else some value))
  else state.refuse ['-', letter]

/-- Read a path.  There is room for one. -/
def readInput (state : ArgumentState) (path : Text) : Except EarlyEnd ArgumentState :=
  if state.input.isNone then .ok { state with input := some path } else state.refuse path

def read (state : ArgumentState) (argument : Text) : Except EarlyEnd ArgumentState :=
  if state.switchesEnded then state.readInput argument
  else if argument = ['-', '-'] then .ok { state with switchesEnded := true }
  else match argument with
    | '-' :: '-' :: rest => state.readLong (rest.dropWhile (· == '-'))
    | '-' :: letter :: value => state.readShort letter value
    | _ =>
        if state.awaitsLexer then
          .ok { state with
            lexerNames := state.lexerNames ++ [argument], awaitsLexer := false }
        else state.readInput argument

/-- The first switch that was used more than once. -/
def repeated? (state : ArgumentState) : Option Switch :=
  Switch.all.find? fun switch => 1 < state.used.count switch

/-- The options that a whole command line stands for. -/
def toOptions (state : ArgumentState) (lexer : Lexer) : Options :=
  { lexer
    json := state.used.contains .json
    keepTrivia := state.used.contains .keepTrivia
    check := state.used.contains .check
    automaton := state.used.contains .automaton
    input := state.input }

/-- Check a command line that has been read to its end.  The name of the lexer is looked at last. -/
def finish (state : ArgumentState) : Except UsageError Options :=
  if state.used.contains .lexer && state.lexerNames.isEmpty then .error (.missingValue state.used)
  else match state.repeated? with
    | some switch => .error (.repeated switch state.used)
    | none =>
        match state.lexerNames with
        | [] => .ok (state.toOptions .standard)
        | name :: _ =>
            match Lexer.ofName? name with
            | some lexer => .ok (state.toOptions lexer)
            | none => .error (.unknownLexer name)

end ArgumentState

/-- What a command line, given without the name of the program, asks for. -/
def Command.parse (arguments : List Text) : Except UsageError Command :=
  match arguments.foldlM ArgumentState.read {} with
  | .ok state => state.finish.map .run
  | .error .help => .ok .help
  | .error .version => .ok .version
  | .error (.unknownArgument argument used) => .error (.unknownArgument argument used)

end LexKit

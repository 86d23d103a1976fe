import LexKit.Proofs.Lexers.Document
import LexKit.Proofs.Scan.Undecided
import LexKit.Proofs.Text.Control

/-!
What the program shows on a terminal.

A source text may hold anything: newlines, sequences that move the cursor, quotes and backslashes.
None of this gets through.  Each printed token has a line of its own, in which only the sequences
for color and bold type are obeyed, and the lines tell the tokens.  A message about a text that is
not made of tokens holds no control character either, apart from the path that was given.
-/

namespace LexKit

variable {κ : Type}

/-! ### Messages -/

theorem FaultCause.controlFree_render {cause : FaultCause}
    (free : ∀ message, cause = .explicit message → ControlFree message) :
    ControlFree cause.render := by
  match cause with
  | .unmatched none =>
      change ControlFree "no suitable transition found for end of input".toList
      decide +kernel
  | .unmatched (some c) =>
      have words : ControlFree "no suitable transition found for '".toList := by decide +kernel
      exact .append (.append words (EscapeStyle.strict.controlFree_render c)) (by decide)
  | .explicit message => exact free message rfl
  | .missingDestination =>
      change ControlFree "transition does not lead to a next state".toList
      decide +kernel

theorem SourcePos.controlFree_render (pos : SourcePos) : ControlFree pos.render := by
  have line : ControlFree ("line ".toList ++ Text.decimal pos.line) :=
    .append (by decide) (.decimal pos.line)
  exact .append (.append line (by decide)) (.decimal pos.column)

theorem StateId.controlFree_render (state : StateId) : ControlFree state.render :=
  .append (show ControlFree ['s'] by decide) (.decimal state)

theorem Fault.controlFree_render {fault : Fault}
    (free : ∀ message, fault.cause = .explicit message → ControlFree message) :
    ControlFree fault.render := by
  have place : ControlFree (fault.pos.render ++ " (".toList ++ StateId.render fault.state) :=
    .append (.append fault.pos.controlFree_render (by decide))
      (StateId.controlFree_render fault.state)
  exact .append (.append (.append place (by decide)) (FaultCause.controlFree_render free))
    (by decide)

namespace Automaton

/-- The messages with which an automaton can fail. -/
def messages (automaton : Automaton κ) : List Text :=
  automaton.states.flatten.filterMap fun transition =>
    match transition.disposition with
    | some (.fail message) => some message
    | _ => none

variable {automaton : Automaton κ} {text : Text} {fault : Fault}

theorem mem_flatten_of_select? {id : StateId} {input : Option Char} {transition : Transition κ}
    (selected : automaton.select? id input = some transition) :
    transition ∈ automaton.states.flatten := by
  have member := mem_of_select? selected
  rw [state, List.getD_eq_getElem?_getD] at member
  cases row : automaton.states[id]? with
  | none => simp [row] at member
  | some transitions =>
      rw [row, Option.getD_some] at member
      exact List.mem_flatten.mpr ⟨transitions, List.mem_of_getElem? row, member⟩

theorem message_mem_of_tokenize {message : Text}
    (rejected : automaton.tokenize text = .rejected fault)
    (explicit : fault.cause = .explicit message) : message ∈ automaton.messages := by
  have refused := (genuine_of_tokenize rejected).refused
  rw [explicit] at refused
  cases refused with
  | explicit selected fails =>
      exact List.mem_filterMap.mpr ⟨_, mem_flatten_of_select? selected, by simp [fails]⟩

end Automaton

/-! ### Lines -/

section

variable [TokenKind κ]

/-- The line of a token: its kind in blue and its value, between quotes, in bold type. -/
def Program.terminalLine (token : Token κ) : Text :=
  "\x1b[38;5;4m".toList ++ TokenKind.name token.kind ++ "\x1b[39m \x1b[1m".toList ++
    doubleQuoted token.value ++ "\x1b[m".toList

namespace Program

theorem tokenLine_eq (token : Token κ) : tokenLine token = Text.line (terminalLine token) := by
  have blue : Screen.control ("38;5;".toList ++ Text.decimal Color.blue.index) =
      "\x1b[38;5;4m".toList := by decide +kernel
  have between : Screen.control ['3', '9'] ++ [' '] ++ Screen.control ['1'] =
      "\x1b[39m \x1b[1m".toList := by decide +kernel
  have normal : Screen.control [] = "\x1b[m".toList := by decide +kernel
  -- Only the places of the fixed sequences matter here, not what they are.
  have regroup {first kind last next value final opening middle closing : Text}
      (opens : first = opening) (goesOn : last ++ [' '] ++ next = middle)
      (closes : final = closing) :
      (first ++ kind ++ last) ++ [' '] ++ (next ++ value ++ final) =
        opening ++ kind ++ middle ++ value ++ closing := by
    rw [← opens, ← goesOn, ← closes]
    simp only [List.append_assoc]
  exact congrArg Text.line (regroup blue between normal)

theorem tokenSection_eq (tokens : List (Token κ)) :
    tokenSection false (.ofTokens tokens) = (tokens.map terminalLine).flatMap Text.line := by
  have each : (tokenLine : Token κ → Text) = fun token => Text.line (terminalLine token) :=
    funext tokenLine_eq
  rw [List.flatMap_map, ← each]
  rfl

/-- The kind of a token ends where the next sequence begins, and its value at the closing quote. -/
theorem terminalLine_injective
    (distinct : Function.Injective fun kind : κ => TokenKind.name kind)
    (plain : ∀ kind : κ, ControlFree (TokenKind.name kind)) :
    Function.Injective (terminalLine : Token κ → Text) := by
  -- No name holds the character with which the sequence behind it begins.
  have apart {opening first second middle behind value other closing : Text}
      (begins : middle = '\x1b' :: behind) (free : ControlFree first)
      (otherFree : ControlFree second)
      (same : opening ++ first ++ middle ++ value ++ closing =
        opening ++ second ++ middle ++ other ++ closing) : first = second ∧ value = other := by
    simp only [begins, List.append_assoc, List.append_cancel_left_eq, List.cons_append] at same
    obtain ⟨sameName, sameBehind⟩ :=
      append_delimiter_inj free.escape_notMem otherFree.escape_notMem same
    rw [List.append_cancel_left_eq, List.append_cancel_right_eq] at sameBehind
    exact ⟨sameName, sameBehind⟩
  rintro ⟨kind, value⟩ ⟨otherKind, otherValue⟩ same
  obtain ⟨sameName, sameValue⟩ := apart rfl (plain kind) (plain otherKind) same
  have sameText : value = otherValue :=
    (selfDelimiting_doubleQuoted (congrArg (· ++ []) sameValue)).1
  rw [distinct sameName, sameText]

theorem newline_notMem_terminalLine (plain : ∀ kind : κ, ControlFree (TokenKind.name kind))
    (token : Token κ) : '\n' ∉ terminalLine token := by
  have kind : '\n' ∉ TokenKind.name token.kind := (plain token.kind).newline_notMem
  have value : '\n' ∉ doubleQuoted token.value := (controlFree_doubleQuoted _).newline_notMem
  have opening : '\n' ∉ "\x1b[38;5;4m".toList := by decide +kernel
  have middle : '\n' ∉ "\x1b[39m \x1b[1m".toList := by decide +kernel
  have closing : '\n' ∉ "\x1b[m".toList := by decide +kernel
  have front : '\n' ∉ "\x1b[38;5;4m".toList ++ TokenKind.name token.kind ++
      "\x1b[39m \x1b[1m".toList :=
    List.not_mem_append (List.not_mem_append opening kind) middle
  exact List.not_mem_append (List.not_mem_append front value) closing

/-- The tokens are printed one on each line, and nothing in them is obeyed by a terminal.  No other
tokens are printed that way. -/
structure PrintsLines (tokens : List (Token κ)) (printed : Text) : Prop where
  lines : printed.splitOn '\n' = tokens.map terminalLine ++ [[]]
  controlFree : ∀ token ∈ tokens,
    ControlFree (TokenKind.name token.kind) ∧ ControlFree (doubleQuoted token.value)
  unique : ∀ others : List (Token κ),
    tokenSection false (.ofTokens others) = printed → others = tokens

theorem printsLines (distinct : Function.Injective fun kind : κ => TokenKind.name kind)
    (plain : ∀ kind : κ, ControlFree (TokenKind.name kind)) (tokens : List (Token κ)) :
    PrintsLines tokens (tokenSection false (.ofTokens tokens)) where
  lines := by
    rw [tokenSection_eq]
    apply splitOn_lines
    intro line member
    obtain ⟨token, _, rfl⟩ := List.mem_map.mp member
    exact newline_notMem_terminalLine plain token
  controlFree := fun token _ => ⟨plain token.kind, controlFree_doubleQuoted token.value⟩
  unique := by
    intro others same
    simp only [tokenSection_eq, List.flatMap_map] at same
    have delimiting : SelfDelimiting fun token : Token κ => Text.line (terminalLine token) :=
      selfDelimiting_line (terminalLine_injective distinct plain)
        (newline_notMem_terminalLine plain)
    exact delimiting.flatMap_injective (fun _ => by simp [Text.line]) same

/-! ### Runs -/

/-- The tokens of a text that a run prints. -/
def printedTokens (options : Options) (tokens : List (Token κ)) : List (Token κ) :=
  if options.keepTrivia then tokens else tokens.filter (!·.isTrivia)

variable {automaton : Automaton κ} {options : Options} {text : Text}

theorem textReport_accepted {tokens : List (Token κ)} (plain : options.json = false)
    (accepted : automaton.tokenize text = .accepted tokens) (path : Text) :
    textReport automaton options path text =
      some
        { code := 0
          output := tokenSection false (.ofTokens (printedTokens options tokens)) } := by
  have kept : (if options.keepTrivia then TokenQueue.ofTokens tokens
      else (TokenQueue.ofTokens tokens).withoutTrivia) =
        .ofTokens (printedTokens options tokens) := by
    unfold printedTokens
    split <;> rfl
  simp only [textReport, accepted, plain, kept]

theorem exists_reason {fault : Fault}
    (free : ∀ message, fault.cause = .explicit message → ControlFree message) (path : Text) :
    ∃ reason, ControlFree reason ∧
      Report.ofFailure (.scan path fault) =
        { code := 1
          errors := Text.line ("\x1b[38;5;1mError\x1b[39m: ".toList ++ path ++ reason) } := by
  have red : Screen.paint .red "Error".toList ++ ": ".toList =
      "\x1b[38;5;1mError\x1b[39m: ".toList := by decide +kernel
  have remark : ControlFree
      (if fault.cause.isDefect then " This is a bug in the tokenizer.".toList else []) :=
    iteInduction (fun _ => by decide +kernel) fun _ => by decide
  have regroup {first second opening colon shown blamed : Text}
      (opens : first ++ second = opening) :
      (first ++ second) ++ (path ++ colon ++ shown ++ blamed) =
        opening ++ path ++ (colon ++ shown ++ blamed) := by
    rw [opens]
    simp only [List.append_assoc]
  refine ⟨_, .append (.append ?_ (Fault.controlFree_render free)) remark,
    congrArg (fun errors => ({ code := 1, errors := Text.line errors } : Report)) (regroup red)⟩
  decide +kernel

theorem textReport_rejected {fault : Fault}
    (free : ∀ message ∈ automaton.messages, ControlFree message)
    (rejected : automaton.tokenize text = .rejected fault) (path : Text) :
    ∃ reason, ControlFree reason ∧
      textReport automaton options path text =
        some
          { code := 1
            errors := Text.line ("\x1b[38;5;1mError\x1b[39m: ".toList ++ path ++ reason) } := by
  have explicitFree (message : Text) (explicit : fault.cause = .explicit message) :
      ControlFree message :=
    free message (Automaton.message_mem_of_tokenize rejected explicit)
  obtain ⟨reason, plain, shown⟩ := exists_reason explicitFree path
  refine ⟨reason, plain, ?_⟩
  rw [textReport, rejected]
  exact congrArg some shown

/-- A run of one lexer prints the tokens of a text line by line behind the automaton, if that is
shown.  A text that is not made of tokens has it print a message on one line instead, in which only
the path can hold control characters, apart from the two sequences that color its first word. -/
structure ShowsPlainly (lexer : Lexer) (automaton : Automaton κ) : Prop where
  tokens : ∀ arguments options input text tokens,
    Command.parse arguments = .ok (.run options) → options.lexer = lexer →
    options.check = false → options.json = false → input.bind decodeUtf8 = .ok text →
    automaton.tokenize text = .accepted tokens →
    ∃ printed, PrintsLines (printedTokens options tokens) printed ∧
      answer arguments (runLexer · input) =
        some { code := 0, output := shownAutomaton options ++ printed, errors := [] }
  fault : ∀ arguments options input text fault,
    Command.parse arguments = .ok (.run options) → options.lexer = lexer →
    options.check = false → input.bind decodeUtf8 = .ok text →
    automaton.tokenize text = .rejected fault →
    ∃ reason, ControlFree reason ∧
      answer arguments (runLexer · input) =
        some
          { code := 1
            output := shownAutomaton options
            errors := "\x1b[38;5;1mError\x1b[39m: ".toList ++
              options.input.getD standardInputName ++ reason ++ ['\n'] }

variable {input : Except ReadError ByteArray}

theorem runWith_of_decoded (reads : options.check = false)
    (decoded : input.bind decodeUtf8 = .ok text) :
    runWith automaton options input =
      (textReport automaton options (options.input.getD standardInputName) text).map
        (·.prepend (if options.automaton then automatonSection automaton else [])) := by
  simp only [runWith, reads, inputReport, decoded, Bool.false_eq_true, ↓reduceIte]

/-- It is enough that the lexer runs the automaton, that its kinds have different names, and that
neither these nor the messages of the automaton hold control characters. -/
theorem showsPlainly {lexer : Lexer} {all : List κ}
    (runs : ∀ options, options.lexer = lexer →
      runLexer options = runWith automaton options ∧
      shownAutomaton options = if options.automaton then automatonSection automaton else [])
    (complete : ∀ kind, kind ∈ all) (different : (all.map TokenKind.name).Nodup)
    (plain : ∀ kind ∈ all, ControlFree (TokenKind.name kind))
    (free : ∀ message ∈ automaton.messages, ControlFree message) :
    ShowsPlainly lexer automaton where
  tokens := by
    intro arguments options input text tokens parsed chosen reads json decoded accepted
    obtain ⟨run, shown⟩ := runs options chosen
    have distinct : Function.Injective fun kind : κ => TokenKind.name kind :=
      fun _ _ same => List.inj_on_of_nodup_map different (complete _) (complete _) same
    refine ⟨_, printsLines distinct (fun kind => plain kind (complete kind)) _, ?_⟩
    simp only [answer, parsed, run]
    rw [runWith_of_decoded reads decoded, textReport_accepted json accepted, shown]
    rfl
  fault := by
    intro arguments options input text fault parsed chosen reads decoded rejected
    obtain ⟨run, shown⟩ := runs options chosen
    obtain ⟨reason, reasonFree, reported⟩ :=
      textReport_rejected free rejected (options.input.getD standardInputName)
    refine ⟨reason, reasonFree, ?_⟩
    simp only [answer, parsed, run]
    rw [runWith_of_decoded reads decoded, reported, shown, Option.map_some, Report.prepend,
      List.append_nil]
    rfl

end Program

end

/-! ### The lexers -/

theorem Arithmetic.Kind.mem_all (kind : Arithmetic.Kind) : kind ∈ all := by
  cases kind <;> decide

theorem Json.Kind.mem_all (kind : Json.Kind) : kind ∈ all := by
  cases kind <;> decide

theorem Arithmetic.controlFree_messages : ∀ message ∈ automaton.messages, ControlFree message := by
  rw [Automaton.messages, automaton_states]
  decide +kernel

theorem Json.controlFree_messages : ∀ message ∈ automaton.messages, ControlFree message := by
  rw [Automaton.messages, automaton_states]
  decide +kernel

/-- Both lexers show every text plainly: a token on each line, or a message on one line, and no
control characters but the program's own and those of the path. -/
theorem terminal_output_plain :
    Program.ShowsPlainly .arithmetic Arithmetic.automaton ∧
      Program.ShowsPlainly .json Json.automaton := by
  constructor
  · apply Program.showsPlainly _ Arithmetic.Kind.mem_all (by decide +kernel) (by decide +kernel)
      Arithmetic.controlFree_messages
    intro options chosen
    rw [Program.shownAutomaton, chosen]
    exact ⟨by funext input; rw [Program.runLexer, chosen], rfl⟩
  · apply Program.showsPlainly _ Json.Kind.mem_all (by decide +kernel) (by decide +kernel)
      Json.controlFree_messages
    intro options chosen
    rw [Program.shownAutomaton, chosen]
    exact ⟨by funext input; rw [Program.runLexer, chosen], rfl⟩

/-- A string that would clear the screen, and a character that would ring the bell. -/
theorem clear_and_bell_shown :
    (∃ printed,
      Program.answer ["--lexer".toList, "json".toList, "--keep-trivia".toList]
          (Program.runLexer · (.ok (encodeUtf8 "\"\x1b[2J\"\n".toList))) =
        some { code := 0, output := printed, errors := [] } ∧
      printed.splitOn '\n' =
        ["\x1b[38;5;4mstring\x1b[39m \x1b[1m\"\\\"\\u\x7b1b\x7d[2J\\\"\"\x1b[m".toList,
          "\x1b[38;5;4mwhitespace\x1b[39m \x1b[1m\"\\n\"\x1b[m".toList, []]) ∧
    ∃ reason, ControlFree reason ∧
      Program.answer [] (Program.runLexer · (.ok (encodeUtf8 "1\x07".toList))) =
        some
          { code := 1
            errors := "\x1b[38;5;1mError\x1b[39m: <stdin>".toList ++ reason ++ ['\n'] } := by
  obtain ⟨arithmetic, json⟩ := terminal_output_plain
  have decoded (text : Text) : (Except.ok (encodeUtf8 text) : Except ReadError ByteArray).bind
      decodeUtf8 = .ok text := decodeUtf8_encodeUtf8 text
  constructor
  · have accepted : Json.automaton.tokenize "\"\x1b[2J\"\n".toList =
        .accepted [⟨.string, "\"\x1b[2J\"".toList⟩, ⟨.whitespace, "\n".toList⟩] := by decide +kernel
    obtain ⟨printed, lines, answered⟩ := json.tokens
      ["--lexer".toList, "json".toList, "--keep-trivia".toList]
      { lexer := .json, keepTrivia := true } (.ok (encodeUtf8 "\"\x1b[2J\"\n".toList)) _ _
      rfl rfl rfl rfl (decoded _) accepted
    refine ⟨printed, answered, ?_⟩
    rw [lines.lines]
    decide +kernel
  · have rejected : Arithmetic.automaton.tokenize "1\x07".toList =
        .rejected ⟨.unmatched (some '\x07'), ⟨1, 1⟩, 1, 0⟩ := by decide +kernel
    obtain ⟨reason, free, answered⟩ := arithmetic.fault [] {}
      (.ok (encodeUtf8 "1\x07".toList)) _ _ rfl rfl rfl (decoded _) rejected
    exact ⟨reason, free, answered⟩

end LexKit

import LexKit.Program.Run
import LexKit.Proofs.Lexers.Arithmetic
import LexKit.Proofs.Lexers.Json

/-!
Written tokens read back.

The JSON lexer finds in a written queue the brackets, braces, colons, commas and literals that were
written, each as one token, and besides them only the white space of the layout.  A document is cut
into pieces, each a token with the gap in front of it, so that both layouts are one argument.  What
the program prints as JSON can therefore be given to it again.
-/

namespace LexKit

variable {κ : Type} [TokenKind κ]

/-! ### The tokens of a document -/

namespace Json

def mark (c : Char) : Token Kind := ⟨.punctuation, [c]⟩

def literal (text : Text) : Token Kind := ⟨.string, jsonString text⟩

end Json

open Json in
def Token.documentTokens (token : Token κ) : List (Token Json.Kind) :=
  [mark '\x7b', literal "type".toList, mark ':', literal (TokenKind.name token.kind), mark ',',
    literal "value".toList, mark ':', literal token.value, mark '\x7d']

/-- What a JSON lexer should find in a written queue, apart from white space. -/
def TokenQueue.documentTokens (queue : TokenQueue κ) : List (Token Json.Kind) :=
  [Json.mark '['] ++ [Json.mark ','].intercalate (queue.tokens.map Token.documentTokens) ++
    [Json.mark ']']

namespace Json

/-! ### Literals -/

theorem digitChar_isStringItem {n : Nat} (small : n < 16) : IsStringItem [Nat.digitChar n] := by
  refine .inl ⟨_, rfl, ?_, ?_⟩ <;> revert n <;> decide

theorem exists_items_jsonChar (c : Char) :
    ∃ items : List Text, jsonChar c = items.flatten ∧ ∀ item ∈ items, IsStringItem item := by
  have escape {d : Char} (isEscape : IsEscape d) :
      ∃ items : List Text, ['\\', d] = items.flatten ∧ ∀ item ∈ items, IsStringItem item :=
    ⟨[['\\', d]], rfl, by simpa using .inr ⟨d, rfl, isEscape⟩⟩
  unfold jsonChar
  split_ifs with quote backslash _ _ _ _ _ control
  · exact escape (by decide)
  · exact escape (by decide)
  · exact escape (by decide)
  · exact escape (by decide)
  · exact escape (by decide)
  · exact escape (by decide)
  · exact escape (by decide)
  · -- The lexer takes only the `u` for escaped; the four digits stand for themselves.
    refine ⟨[['\\', 'u'], ['0'], ['0'], [Nat.digitChar (c.toNat / 16)],
      [Nat.digitChar (c.toNat % 16)]], rfl, ?_⟩
    have unicode : IsStringItem ['\\', 'u'] := .inr ⟨'u', rfl, by decide⟩
    have zero : IsStringItem ['0'] := digitChar_isStringItem (show 0 < 16 by decide)
    have high := digitChar_isStringItem (show c.toNat / 16 < 16 by omega)
    have low := digitChar_isStringItem (show c.toNat % 16 < 16 by omega)
    simp [unicode, zero, high, low]
  · exact ⟨[[c]], rfl, by simpa using .inl ⟨c, rfl, quote, backslash⟩⟩

theorem lexeme_literal (text : Text) : grammar.Lexeme .string (jsonString text) := by
  suffices content : ∃ items : List Text, text.flatMap jsonChar = items.flatten ∧
      ∀ item ∈ items, IsStringItem item by
    obtain ⟨items, whole, complete⟩ := content
    exact ⟨items, by rw [jsonString, whole], complete⟩
  induction text with
  | nil => exact ⟨[], rfl, by simp⟩
  | cons c text inductionHypothesis =>
      obtain ⟨first, own, firstComplete⟩ := exists_items_jsonChar c
      obtain ⟨items, whole, complete⟩ := inductionHypothesis
      refine ⟨first ++ items, ?_, ?_⟩
      · rw [List.flatMap_cons, own, whole, List.flatten_append]
      · intro item member
        exact (List.mem_append.mp member).elim (firstComplete item) (complete item)

/-! ### Pieces with gaps -/

/-- White space that may stand between tokens, or nothing. -/
abbrev Gap := { text : Text // ∀ c ∈ text, IsBlank c }

def Gap.none : Gap := ⟨[], by simp⟩

theorem Gap.val_none : Gap.none.1 = [] := rfl

/-- A token that no neighbour can change, with the gap in front of it. -/
inductive Piece where
  | mark (gap : Gap) (c : Char) (isMark : IsPunctuation c)
  | literal (gap : Gap) (text : Text)

namespace Piece

def gap : Piece → Gap
  | mark gap _ _ => gap
  | literal gap _ => gap

def token : Piece → Token Kind
  | mark _ c _ => Json.mark c
  | literal _ text => Json.literal text

def text (piece : Piece) : Text :=
  piece.gap.1 ++ piece.token.value

theorem lexeme_token (piece : Piece) : grammar.Lexeme piece.token.kind piece.token.value := by
  cases piece with
  | mark gap c isMark => exact ⟨c, rfl, isMark⟩
  | literal gap text => exact lexeme_literal text

theorem kind_token_ne_whitespace (piece : Piece) : piece.token.kind ≠ .whitespace := by
  cases piece <;> simp [token, Json.mark, Json.literal]

theorem kind_token_ne_number (piece : Piece) : piece.token.kind ≠ .number := by
  cases piece <;> simp [token, Json.mark, Json.literal]

end Piece

/-- The token of a gap, unless there is nothing in it. -/
def gapTokens (gap : Gap) : List (Token Kind) :=
  if gap.1 = [] then [] else [⟨.whitespace, gap.1⟩]

/-- The tokens of pieces one after the other, with a gap behind the last one. -/
def laidOut (pieces : List Piece) (ending : Gap) : List (Token Kind) :=
  pieces.flatMap (fun piece => gapTokens piece.gap ++ [piece.token]) ++ gapTokens ending

theorem laidOut_cons (piece : Piece) (pieces : List Piece) (ending : Gap) :
    laidOut (piece :: pieces) ending =
      gapTokens piece.gap ++ piece.token :: laidOut pieces ending := by
  simp [laidOut]

variable {pieces : List Piece} {ending gap : Gap}

theorem values_gapTokens (gap : Gap) : (gapTokens gap).flatMap Token.value = gap.1 :=
  values_blankTokens Kind.whitespace gap.1

theorem mem_gapTokens {token : Token Kind} (member : token ∈ gapTokens gap) :
    token = ⟨.whitespace, gap.1⟩ ∧ gap.1 ≠ [] :=
  mem_blankTokens member

theorem filter_gapTokens (gap : Gap) : (gapTokens gap).filter (·.kind ≠ .whitespace) = [] := by
  rw [List.filter_eq_nil_iff]
  intro token member
  simp [(mem_gapTokens member).1]

theorem values_laidOut (pieces : List Piece) (ending : Gap) :
    (laidOut pieces ending).flatMap Token.value = pieces.flatMap Piece.text ++ ending.1 := by
  induction pieces with
  | nil => exact values_gapTokens ending
  | cons piece pieces inductionHypothesis =>
      simp [laidOut_cons, values_gapTokens, inductionHypothesis, Piece.text]

theorem lexeme_of_mem_laidOut {token : Token Kind} (member : token ∈ laidOut pieces ending) :
    grammar.Lexeme token.kind token.value := by
  have ofGap {gap : Gap} (member : token ∈ gapTokens gap) :
      grammar.Lexeme token.kind token.value := by
    obtain ⟨rfl, nonempty⟩ := mem_gapTokens member
    exact ⟨nonempty, gap.2⟩
  induction pieces with
  | nil => exact ofGap member
  | cons piece pieces inductionHypothesis =>
      rw [laidOut_cons] at member
      rcases List.mem_append.mp member with before | here
      · exact ofGap before
      · rcases List.mem_cons.mp here with rfl | later
        · exact piece.lexeme_token
        · exact inductionHypothesis later

/-- Only white space and numbers mind their neighbours, and no two gaps meet. -/
theorem isChain_laidOut (pieces : List Piece) (ending : Gap) :
    (laidOut pieces ending).IsChain grammar.Adjoins := by
  induction pieces with
  | nil =>
      rw [laidOut, List.flatMap_nil, List.nil_append, gapTokens]
      split_ifs <;> simp
  | cons piece pieces inductionHypothesis =>
      have follows : (piece.token :: laidOut pieces ending).IsChain grammar.Adjoins := by
        refine List.isChain_cons.mpr ⟨?_, inductionHypothesis⟩
        intro next first
        simp [grammar, piece.kind_token_ne_whitespace, piece.kind_token_ne_number]
      rw [laidOut_cons, gapTokens]
      split_ifs
      · exact follows
      · refine .cons_cons ?_ follows
        simp [grammar, piece.kind_token_ne_whitespace]

theorem tokenize_pieces (pieces : List Piece) (ending : Gap) :
    automaton.tokenize (pieces.flatMap Piece.text ++ ending.1) =
      .accepted (laidOut pieces ending) := by
  apply automaton_implements.tokenize_of_divides
  constructor
  · exact values_laidOut pieces ending
  · intro token member
    exact lexeme_of_mem_laidOut member
  · exact isChain_laidOut pieces ending

theorem filter_laidOut (pieces : List Piece) (ending : Gap) :
    (laidOut pieces ending).filter (·.kind ≠ .whitespace) = pieces.map Piece.token := by
  induction pieces with
  | nil => exact filter_gapTokens ending
  | cons piece pieces inductionHypothesis =>
      rw [laidOut_cons, List.filter_append, filter_gapTokens, List.filter_cons_of_pos,
        inductionHypothesis]
      · rfl
      · simpa using piece.kind_token_ne_whitespace

/-! ### Layouts -/

/-- The gaps of a document: in front of an object, of a member, of the value of a member, and of the
braces and the bracket that close. -/
structure Layout where
  object : Gap
  member : Gap
  value : Gap
  brace : Gap
  bracket : Gap

namespace Layout

def compact : Layout := ⟨.none, .none, .none, .none, .none⟩

def pretty : Layout :=
  ⟨⟨['\n', ' ', ' '], by simp [IsBlank]⟩, ⟨['\n', ' ', ' ', ' ', ' '], by simp [IsBlank]⟩,
    ⟨[' '], by simp [IsBlank]⟩, ⟨['\n', ' ', ' '], by simp [IsBlank]⟩, ⟨['\n'], by simp [IsBlank]⟩⟩

def tokenPieces (layout : Layout) (token : Token κ) : List Piece :=
  [.mark layout.object '\x7b' (by decide), .literal layout.member "type".toList,
    .mark .none ':' (by decide), .literal layout.value (TokenKind.name token.kind),
    .mark .none ',' (by decide), .literal layout.member "value".toList,
    .mark .none ':' (by decide), .literal layout.value token.value,
    .mark layout.brace '\x7d' (by decide)]

/-- The text of an object up to the literal of the kind. -/
def opening (layout : Layout) : Text :=
  layout.object.1 ++ ['\x7b'] ++ layout.member.1 ++ jsonString "type".toList ++ [':'] ++
    layout.value.1

/-- The text of an object between its two literals. -/
def middle (layout : Layout) : Text :=
  [','] ++ layout.member.1 ++ jsonString "value".toList ++ [':'] ++ layout.value.1

def closing (layout : Layout) : Text :=
  layout.brace.1 ++ ['\x7d']

def queuePieces (layout : Layout) (queue : TokenQueue κ) : List Piece :=
  [.mark .none '[' (by decide)] ++
    [.mark .none ',' (by decide)].intercalate (queue.tokens.map layout.tokenPieces) ++
      [.mark layout.bracket ']' (by decide)]

end Layout

section Join

variable {α β : Type}

/-- Separators stay between the parts under a map that keeps lists joined. -/
theorem apply_intercalate {f : List α → List β} (nil : f [] = [])
    (append : ∀ left right, f (left ++ right) = f left ++ f right) (separator : List α)
    (parts : List (List α)) :
    f (separator.intercalate parts) = (f separator).intercalate (parts.map f) := by
  induction parts with
  | nil => exact nil
  | cons part parts inductionHypothesis =>
      cases parts with
      | nil => simp
      | cons next parts =>
          rw [List.intercalate_cons_cons, append, append, inductionHypothesis]
          exact List.intercalate_cons_cons.symm

/-- What ends every separator begins every part but the first. -/
theorem intercalate_map_append (separator lead : List α) {parts : List (List α)}
    (nonempty : parts ≠ []) :
    separator.intercalate (parts.map (lead ++ ·)) =
      lead ++ (separator ++ lead).intercalate parts := by
  induction parts with
  | nil => exact absurd rfl nonempty
  | cons part parts inductionHypothesis =>
      cases parts with
      | nil => simp
      | cons next parts =>
          rw [List.map_cons, List.map_cons, List.intercalate_cons_cons, ← List.map_cons,
            inductionHypothesis (List.cons_ne_nil next parts), List.intercalate_cons_cons]
          simp only [List.append_assoc]

end Join

namespace Layout

variable (layout : Layout) (token : Token κ) (queue : TokenQueue κ)

/-- Whatever is done piece by piece to a document can be done object by object. -/
theorem apply_queuePieces {β : Type} {f : List Piece → List β} (nil : f [] = [])
    (append : ∀ left right, f (left ++ right) = f left ++ f right) :
    f (layout.queuePieces queue) =
      f [.mark .none '[' (by decide)] ++
          (f [.mark .none ',' (by decide)]).intercalate
            (queue.tokens.map fun token => f (layout.tokenPieces token)) ++
        f [.mark layout.bracket ']' (by decide)] := by
  rw [queuePieces, append, append, apply_intercalate nil append, List.map_map]
  rfl

theorem map_token_queuePieces :
    (layout.queuePieces queue).map Piece.token = queue.documentTokens :=
  layout.apply_queuePieces queue List.map_nil fun _ _ => List.map_append

theorem text_queuePieces :
    (layout.queuePieces queue).flatMap Piece.text =
      ['['] ++ [','].intercalate
          (queue.tokens.map fun token => (layout.tokenPieces token).flatMap Piece.text) ++
        (layout.bracket.1 ++ [']']) := by
  rw [layout.apply_queuePieces queue List.flatMap_nil fun _ _ => List.flatMap_append]
  simp [Piece.text, Piece.gap, Piece.token, Json.mark, Gap.none]

theorem text_tokenPieces :
    (layout.tokenPieces token).flatMap Piece.text =
      layout.opening ++ jsonString (TokenKind.name token.kind) ++ layout.middle ++
        jsonString token.value ++ layout.closing := by
  simp only [tokenPieces, List.flatMap_cons, List.flatMap_nil, Piece.text, Piece.gap, Piece.token,
    Json.mark, Json.literal, Gap.none, opening, middle, closing, List.nil_append, List.append_nil,
    List.append_assoc]

theorem text_tokenPieces_compact :
    (compact.tokenPieces token).flatMap Piece.text = token.toJson := by
  have opens : compact.opening = "\x7b\"type\":".toList := by decide +kernel
  have goesOn : compact.middle = ",\"value\":".toList := by decide +kernel
  have closes : compact.closing = ['\x7d'] := rfl
  rw [text_tokenPieces, opens, goesOn, closes]
  rfl

theorem text_tokenPieces_pretty :
    (pretty.tokenPieces token).flatMap Piece.text = ['\n'] ++ token.toPrettyJson := by
  have opens : pretty.opening = ['\n'] ++ "  \x7b\n    \"type\": ".toList := by decide +kernel
  have goesOn : pretty.middle = ",\n    \"value\": ".toList := by decide +kernel
  have closes : pretty.closing = "\n  \x7d".toList := by decide +kernel
  rw [text_tokenPieces, opens, goesOn, closes]
  rfl

theorem text_compact : (compact.queuePieces queue).flatMap Piece.text = queue.toJson := by
  simp only [text_queuePieces, text_tokenPieces_compact]
  rfl

theorem text_pretty (nonempty : queue.tokens ≠ []) :
    (pretty.queuePieces queue).flatMap Piece.text = queue.toPrettyJson := by
  have items : (queue.tokens.map fun token => (pretty.tokenPieces token).flatMap Piece.text) =
      (queue.tokens.map Token.toPrettyJson).map (['\n'] ++ ·) := by
    simp [text_tokenPieces_pretty]
  rw [text_queuePieces, items, intercalate_map_append _ _ (by simpa using nonempty)]
  simp [TokenQueue.toPrettyJson, TokenQueue.isEmpty, nonempty, pretty, Text.join]

/-- Every written queue has a layout, as the array without items stays on one line. -/
theorem exists_text_eq_toPrettyJson :
    ∃ layout : Layout, (layout.queuePieces queue).flatMap Piece.text = queue.toPrettyJson := by
  by_cases empty : queue.tokens = []
  · refine ⟨compact, ?_⟩
    simp [text_queuePieces, TokenQueue.toPrettyJson, TokenQueue.isEmpty, empty, compact, Gap.none]
  · exact ⟨pretty, text_pretty queue empty⟩

theorem laidOut_compact : laidOut (compact.queuePieces queue) .none = queue.documentTokens := by
  rw [laidOut, compact.apply_queuePieces queue List.flatMap_nil fun _ _ => List.flatMap_append]
  exact List.append_nil _

end Layout

end Json

/-! ### Documents -/

theorem tokenize_toJson (queue : TokenQueue κ) :
    Json.automaton.tokenize queue.toJson = .accepted queue.documentTokens := by
  have accepted := Json.tokenize_pieces (Json.Layout.compact.queuePieces queue) .none
  rw [Json.Layout.text_compact, Json.Layout.laidOut_compact, Json.Gap.val_none,
    List.append_nil] at accepted
  exact accepted

theorem tokenize_toPrettyJson (queue : TokenQueue κ) (ending : Json.Gap) :
    ∃ tokens, Json.automaton.tokenize (queue.toPrettyJson ++ ending.1) = .accepted tokens ∧
      tokens.filter (·.kind ≠ .whitespace) = queue.documentTokens := by
  obtain ⟨layout, whole⟩ := Json.Layout.exists_text_eq_toPrettyJson queue
  rw [← whole]
  refine ⟨_, Json.tokenize_pieces (layout.queuePieces queue) ending, ?_⟩
  rw [Json.filter_laidOut, Json.Layout.map_token_queuePieces]

/-! ### The program on its own output -/

/-- A text as the bytes that hold it in UTF-8. -/
def encodeUtf8 (text : Text) : ByteArray :=
  (String.ofList text).toUTF8

theorem decodeUtf8_encodeUtf8 (text : Text) : decodeUtf8 (encodeUtf8 text) = .ok text := by
  have valid : String.fromUTF8? (encodeUtf8 text) = some (String.ofList text) :=
    dif_pos (String.ofList text).isValidUTF8
  rw [decodeUtf8, valid]
  simp

namespace Program

variable {automaton : Automaton κ} {options : Options} {input : Except ReadError ByteArray}
  {report : Report} {text : Text}

/-- A run comes to an end if the automaton does. -/
theorem exists_runWith (ended : ∀ text, automaton.tokenize text ≠ .divergent) (options : Options)
    (input : Except ReadError ByteArray) :
    ∃ report, runWith automaton options input = some report := by
  obtain ⟨inner, found⟩ : ∃ inner, inputReport automaton options input = some inner := by
    unfold inputReport
    cases input.bind decodeUtf8 with
    | error error => exact ⟨_, rfl⟩
    | ok text =>
        simp only [textReport]
        cases outcome : automaton.tokenize text with
        | accepted tokens => exact ⟨_, rfl⟩
        | rejected fault => exact ⟨_, rfl⟩
        | divergent => exact absurd outcome (ended text)
  rw [runWith, found]
  split_ifs <;> exact ⟨_, rfl⟩

/-- Behind the automaton, if it is shown, a run prints nothing or a section of tokens. -/
theorem output_runWith (ran : runWith automaton options input = some report) :
    ∃ later, report.output =
        (if options.automaton then automatonSection automaton else []) ++ later ∧
      (later = [] ∨ ∃ queue : TokenQueue κ, later = tokenSection options.json queue) := by
  obtain ⟨inner, found, rfl⟩ := Option.map_eq_some_iff.mp ran
  refine ⟨inner.output, rfl, ?_⟩
  split_ifs at found with check
  · obtain rfl := Option.some.inj found
    left
    unfold checkReport
    split <;> rfl
  · unfold inputReport at found
    cases decoded : input.bind decodeUtf8 with
    | error error =>
        simp only [decoded, Option.some.injEq] at found
        rw [← found]
        exact .inl rfl
    | ok text =>
        simp only [decoded, textReport] at found
        cases outcome : automaton.tokenize text with
        | accepted tokens =>
            simp only [outcome, Option.some.injEq] at found
            rw [← found]
            exact .inr ⟨_, rfl⟩
        | rejected fault =>
            simp only [outcome, Option.some.injEq] at found
            rw [← found]
            exact .inl rfl
        | divergent => simp [outcome] at found

/-- What a run prints before it looks at its input. -/
def shownAutomaton (options : Options) : Text :=
  if options.automaton then
    match options.lexer with
    | .arithmetic => automatonSection Arithmetic.automaton
    | .json => automatonSection Json.automaton
  else []

theorem exists_runLexer (options : Options) (input : Except ReadError ByteArray) :
    ∃ report, runLexer options input = some report := by
  unfold runLexer
  cases options.lexer with
  | arithmetic =>
      exact exists_runWith Arithmetic.automaton_implements.tokenize_ne_divergent options input
  | json => exact exists_runWith Json.automaton_implements.tokenize_ne_divergent options input

theorem tokenize_tokenSection (queue : TokenQueue κ) :
    ∃ tokens, Json.automaton.tokenize (tokenSection true queue) = .accepted tokens := by
  obtain ⟨tokens, accepted, _⟩ := tokenize_toPrettyJson queue ⟨['\n'], by simp [IsBlank]⟩
  exact ⟨tokens, accepted⟩

/-- Behind the automaton, a run that is to print JSON prints what the JSON lexer accepts. -/
theorem output_runLexer (json : options.json = true) (ran : runLexer options input = some report) :
    ∃ document, report.output = shownAutomaton options ++ document ∧
      ∃ tokens, Json.automaton.tokenize document = .accepted tokens := by
  have silent : ∃ tokens, Json.automaton.tokenize [] = .accepted tokens :=
    ⟨[], Automaton.tokenize_nil Json.automaton_wellFormed⟩
  unfold runLexer at ran
  unfold shownAutomaton
  cases lexer : options.lexer with
  | arithmetic =>
      rw [lexer] at ran
      obtain ⟨document, printed, rfl | ⟨queue, rfl⟩⟩ := output_runWith ran
      · exact ⟨[], printed, silent⟩
      · rw [json] at printed
        exact ⟨_, printed, tokenize_tokenSection queue⟩
  | json =>
      rw [lexer] at ran
      obtain ⟨document, printed, rfl | ⟨queue, rfl⟩⟩ := output_runWith ran
      · exact ⟨[], printed, silent⟩
      · rw [json] at printed
        exact ⟨_, printed, tokenize_tokenSection queue⟩

/-- The exit code tells whether the JSON lexer accepts the input. -/
theorem code_runLexer_json (lexer : options.lexer = .json) (reads : options.check = false)
    (ran : runLexer options (.ok (encodeUtf8 text)) = some report) :
    report.code = 0 ↔ ∃ tokens, Json.automaton.tokenize text = .accepted tokens := by
  have decoded : (Except.ok (encodeUtf8 text) : Except ReadError ByteArray).bind decodeUtf8 =
      .ok text := decodeUtf8_encodeUtf8 text
  simp only [runLexer, lexer, runWith, reads, inputReport, decoded] at ran
  obtain ⟨inner, found, rfl⟩ := Option.map_eq_some_iff.mp ran
  simp only [Bool.false_eq_true, ↓reduceIte, textReport] at found
  cases outcome : Json.automaton.tokenize text with
  | accepted tokens =>
      simp only [outcome, Option.some.injEq] at found
      simp [← found, Report.prepend]
  | rejected fault =>
      simp only [outcome, Option.some.injEq] at found
      simp [← found, Report.prepend, Report.ofFailure]
  | divergent => simp [outcome] at found

end Program

/-- No lexeme begins with the control character that colors the rule around the automaton. -/
theorem Json.tokenize_control (rest : Text) :
    ∃ fault, Json.automaton.tokenize ('\x1b' :: rest) = .rejected fault := by
  have reads : Json.automaton.Reads StateId.start [] ('\x1b' :: rest)
      (.fault (.unmatched (some '\x1b')) StateId.start ('\x1b' :: rest)) :=
    .unmatched (.inr (by simp)) (Json.action?_start '\x1b')
  exact ⟨_, ((Automaton.ReadsTokens.none _).tokenize_fault reads Json.automaton_wellFormed).1⟩

/-- Both layouts of a written queue are read back token by token, apart from white space.  What the
program prints as JSON, behind the automaton if that is shown, it accepts again. -/
theorem documents_read_back :
    (∀ (κ : Type) [TokenKind κ] (queue : TokenQueue κ),
      Json.automaton.tokenize queue.toJson = .accepted queue.documentTokens ∧
      ∃ tokens, Json.automaton.tokenize queue.toPrettyJson = .accepted tokens ∧
        tokens.filter (·.kind ≠ .whitespace) = queue.documentTokens) ∧
    ∀ (arguments : List Text) (options : Options) (input : Except ReadError ByteArray),
      Command.parse arguments = .ok (.run options) → options.json = true →
      ∃ report document,
        Program.answer arguments (Program.runLexer · input) = some report ∧
        report.output = Program.shownAutomaton options ++ document ∧
        ∀ (again : List Text) (choice : Options), Command.parse again = .ok (.run choice) →
          choice.lexer = .json → choice.check = false →
          ∃ second, Program.answer again (Program.runLexer · (.ok (encodeUtf8 document))) =
            some second ∧ second.code = 0 := by
  refine ⟨?_, ?_⟩
  · intro κ _ queue
    refine ⟨tokenize_toJson queue, ?_⟩
    obtain ⟨tokens, accepted, same⟩ := tokenize_toPrettyJson queue .none
    rw [Json.Gap.val_none, List.append_nil] at accepted
    exact ⟨tokens, accepted, same⟩
  · intro arguments options input parsed json
    obtain ⟨report, ran⟩ := Program.exists_runLexer options input
    obtain ⟨document, printed, accepted⟩ := Program.output_runLexer json ran
    refine ⟨report, document, ?_, printed, ?_⟩
    · rw [Program.answer, parsed]
      exact ran
    · intro again choice parsedAgain lexer reads
      obtain ⟨second, ranAgain⟩ :=
        Program.exists_runLexer choice (.ok (encodeUtf8 document))
      refine ⟨second, ?_, (Program.code_runLexer_json lexer reads ranAgain).mpr accepted⟩
      rw [Program.answer, parsedAgain]
      exact ranAgain

theorem quotedLabels_read_back :
    Json.automaton.tokenize
        (TokenQueue.ofTokens [⟨Label.mk "\"é".toList, "\\\n\x01".toList⟩]).toJson =
      .accepted
        [⟨.punctuation, "[".toList⟩, ⟨.punctuation, "\x7b".toList⟩,
          ⟨.string, "\"type\"".toList⟩, ⟨.punctuation, ":".toList⟩,
          ⟨.string, "\"\\\"é\"".toList⟩, ⟨.punctuation, ",".toList⟩,
          ⟨.string, "\"value\"".toList⟩, ⟨.punctuation, ":".toList⟩,
          ⟨.string, "\"\\\\\\n\\u0001\"".toList⟩, ⟨.punctuation, "\x7d".toList⟩,
          ⟨.punctuation, "]".toList⟩] ∧
      ∃ report document second,
        Program.answer ["--json".toList] (Program.runLexer · (.ok (encodeUtf8 "1+2".toList))) =
          some report ∧
        report.output = document ∧
        Program.answer ["--lexer".toList, "json".toList]
          (Program.runLexer · (.ok (encodeUtf8 document))) = some second ∧
        second.code = 0 := by
  obtain ⟨written, printed⟩ := documents_read_back
  refine ⟨?_, ?_⟩
  · rw [(written Label _).1]
    decide +kernel
  · obtain ⟨report, document, answered, output, again⟩ := printed ["--json".toList]
      { json := true } (.ok (encodeUtf8 "1+2".toList)) rfl rfl
    obtain ⟨second, answeredAgain, accepted⟩ := again ["--lexer".toList, "json".toList]
      { lexer := .json } rfl rfl rfl
    exact ⟨report, document, second, answered, output, answeredAgain, accepted⟩

theorem shownAutomaton_not_read_back :
    ∃ report second,
      Program.answer ["--json".toList, "--automaton".toList] (Program.runLexer · (.ok .empty)) =
        some report ∧
      Program.answer ["--lexer".toList, "json".toList]
        (Program.runLexer · (.ok (encodeUtf8 report.output))) = some second ∧
      second.code ≠ 0 := by
  obtain ⟨report, ran⟩ := Program.exists_runLexer { json := true, automaton := true } (.ok .empty)
  obtain ⟨document, printed, _⟩ := Program.output_runLexer rfl ran
  obtain ⟨second, ranAgain⟩ :=
    Program.exists_runLexer { lexer := .json } (.ok (encodeUtf8 report.output))
  refine ⟨report, second, ran, ranAgain, ?_⟩
  rw [Ne, Program.code_runLexer_json rfl rfl ranAgain, printed]
  rintro ⟨tokens, accepted⟩
  obtain ⟨rest, colored⟩ : ∃ rest,
      Program.shownAutomaton { json := true, automaton := true } ++ document = '\x1b' :: rest :=
    ⟨_, rfl⟩
  obtain ⟨fault, rejected⟩ := Json.tokenize_control rest
  rw [colored, rejected] at accepted
  cases accepted

end LexKit

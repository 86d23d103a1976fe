import LexKit.Lexers.Arithmetic
import LexKit.Proofs.Lexers.Grammar

/-!
The language of the arithmetic lexer.

The grammar gives the lexemes of each kind and the neighbours that would have been one token.  The
lexer accepts exactly the texts that the grammar divides, and no text is divided in two ways.
-/

namespace LexKit.Arithmetic

/-! ### The grammar -/

/-- A letter or an underscore. -/
def IsWordStart (c : Char) : Prop :=
  c.isAlpha ∨ c = '_'
  deriving Decidable

/-- A letter, a digit or an underscore. -/
def IsWordPart (c : Char) : Prop :=
  c.isAlpha ∨ c.isDigit ∨ c = '_'
  deriving Decidable

def IsOperator (c : Char) : Prop :=
  c ∈ ['+', '-', '*', '/', '%', '^', '=']
  deriving Decidable

def grammar : Grammar Kind where
  Lexeme
    | .whitespace, value => value ≠ [] ∧ ∀ c ∈ value, IsBlank c
    | .number, value => value ≠ [] ∧ ∀ c ∈ value, c.isDigit
    | .identifier, value => ∃ c rest, value = c :: rest ∧ IsWordStart c ∧ ∀ d ∈ rest, IsWordPart d
    | .operator, value => ∃ c, value = [c] ∧ IsOperator c
    | .openParens, value => value = ['(']
    | .closeParens, value => value = [')']
  Adjoins left right :=
    ¬(left.kind = .whitespace ∧ right.kind = .whitespace) ∧
    ¬(left.kind = .number ∧ right.kind = .number) ∧
    ¬(left.kind = .identifier ∧ (right.kind = .identifier ∨ right.kind = .number))

/-! ### How lexemes begin and go on -/

/-- The characters with which a lexeme of a kind begins. -/
def Opens : Kind → Char → Prop
  | .whitespace, c => IsBlank c
  | .number, c => c.isDigit
  | .identifier, c => IsWordStart c
  | .operator, c => IsOperator c
  | .openParens, c => c = '('
  | .closeParens, c => c = ')'

/-- The kind of the lexemes that begin with a character. -/
def opening? (c : Char) : Option Kind :=
  if IsBlank c then some .whitespace
  else if c.isDigit then some .number
  else if IsWordStart c then some .identifier
  else if IsOperator c then some .operator
  else if c = '(' then some .openParens
  else if c = ')' then some .closeParens
  else none

/-- The characters that do not leave a lexeme as it is when they follow it. -/
def Extends : Kind → Char → Prop
  | .whitespace, c => IsBlank c
  | .number, c => c.isDigit ∨ c = '.'
  | .identifier, c => IsWordPart c
  | .operator, _ | .openParens, _ | .closeParens, _ => False

variable {c : Char} {kind : Kind} {value text rest : Text} {token next : Token Kind}

theorem opening?_eq_some (opens : Opens kind c) : opening? c = some kind := by
  cases kind with
  | whitespace => simp only [opening?, show IsBlank c from opens, ↓reduceIte]
  | number =>
      have notBlank : ¬IsBlank c := by
        rintro (rfl | rfl | rfl | rfl) <;> simp [Opens] at opens
      simp only [opening?, notBlank, show c.isDigit = true from opens, ↓reduceIte]
  | identifier =>
      have notBlank : ¬IsBlank c := by
        rintro (rfl | rfl | rfl | rfl) <;> simp [Opens, IsWordStart] at opens
      have notDigit : c.isDigit = false := by
        rcases opens with letter | rfl
        · exact not_isDigit_of_isAlpha letter
        · rfl
      simp only [opening?, notBlank, notDigit, show IsWordStart c from opens, Bool.false_eq_true,
        ↓reduceIte]
  | operator =>
      simp only [Opens, IsOperator, List.mem_cons, List.not_mem_nil, or_false] at opens
      rcases opens with rfl | rfl | rfl | rfl | rfl | rfl | rfl <;> rfl
  | openParens =>
      obtain rfl : c = '(' := opens
      rfl
  | closeParens =>
      obtain rfl : c = ')' := opens
      rfl

theorem opens_of_opening? (opening : opening? c = some kind) : Opens kind c := by
  unfold opening? at opening
  split_ifs at opening <;> (cases opening; assumption)

theorem exists_opens (lexeme : grammar.Lexeme kind value) :
    ∃ c rest, value = c :: rest ∧ Opens kind c := by
  cases kind with
  | whitespace =>
      obtain ⟨c, rest, rfl⟩ := List.exists_cons_of_ne_nil lexeme.1
      exact ⟨c, rest, rfl, lexeme.2 c List.mem_cons_self⟩
  | number =>
      obtain ⟨c, rest, rfl⟩ := List.exists_cons_of_ne_nil lexeme.1
      exact ⟨c, rest, rfl, lexeme.2 c List.mem_cons_self⟩
  | identifier =>
      obtain ⟨c, rest, rfl, start, _⟩ := lexeme
      exact ⟨c, rest, rfl, start⟩
  | operator =>
      obtain ⟨c, rfl, operator⟩ := lexeme
      exact ⟨c, [], rfl, operator⟩
  | openParens => exact ⟨'(', [], lexeme, rfl⟩
  | closeParens => exact ⟨')', [], lexeme, rfl⟩

/-- Neighbours may stand side by side if the second one does not begin as the first one goes on. -/
theorem adjoins_iff_not_extends (opens : Opens next.kind c) :
    grammar.Adjoins token next ↔ ¬Extends token.kind c := by
  have only (other : Kind) : Opens other c ↔ next.kind = other := by
    constructor
    · intro otherOpens
      exact Option.some.inj ((opening?_eq_some opens).symm.trans (opening?_eq_some otherOpens))
    · rintro rfl
      exact opens
  have noPoint : c ≠ '.' := by
    rintro rfl
    have opening := opening?_eq_some opens
    simp [show opening? '.' = none from rfl] at opening
  have blank := only .whitespace
  have digit := only .number
  have word := only .identifier
  simp only [Opens, IsWordStart] at blank digit word
  cases own : token.kind with
  | whitespace => simp [grammar, Extends, own, blank]
  | number => simp [grammar, Extends, own, digit, noPoint]
  | identifier =>
      have part : IsWordPart c ↔ next.kind = .identifier ∨ next.kind = .number := by
        rw [← word, ← digit, IsWordPart]
        tauto
      simp [grammar, Extends, own, part]
  | operator => simp [grammar, Extends, own]
  | openParens => simp [grammar, Extends, own]
  | closeParens => simp [grammar, Extends, own]

theorem grammar_boundary : grammar.Boundary Opens Extends where
  exists_opens := exists_opens
  adjoins_iff := fun opens _ => adjoins_iff_not_extends opens

/-! ### The states of the lexer -/

abbrev inBlank : StateId := 1

abbrev inNumber : StateId := 2

abbrev inIdentifier : StateId := 3

theorem automaton_states :
    automaton.states =
      [[{ on := .oneOf blankCharacters, disposition := some (.moveTo inBlank) },
        { on := .digit, disposition := some (.moveTo inNumber) },
        { on := .letter, disposition := some (.moveTo inIdentifier) },
        { on := .oneOf ['_'], disposition := some (.moveTo inIdentifier) },
        { on := .oneOf ['+', '-', '*', '/', '%', '^', '='],
          disposition := some (.emit .operator) },
        { on := .oneOf ['('], disposition := some (.emit .openParens) },
        { on := .oneOf [')'], disposition := some (.emit .closeParens) }],
       [{ on := .oneOf blankCharacters, disposition := some (.moveTo inBlank) },
        { on := .any, includes := false, rereads := true,
          disposition := some (.emit .whitespace) }],
       [{ on := .digit, disposition := some (.moveTo inNumber) },
        { on := .oneOf ['.'], disposition := some (.fail "floating point not supported".toList) },
        { on := .any, includes := false, rereads := true, disposition := some (.emit .number) }],
       [{ on := .letterOrDigit, disposition := some (.moveTo inIdentifier) },
        { on := .oneOf ['_'], disposition := some (.moveTo inIdentifier) },
        { on := .any, includes := false, rereads := true,
          disposition := some (.emit .identifier) }]] := by
  decide +kernel

theorem automaton_wellFormed : automaton.WellFormed := by
  apply Automaton.wellFormed_of_targets
  · rw [Automaton.size, automaton_states]
    decide
  · rw [Automaton.size, automaton_states]
    decide

/-- What the start state does with the first character of a lexeme. -/
def firstStep : Kind → Action Kind
  | .whitespace => .keep (.moveTo inBlank)
  | .number => .keep (.moveTo inNumber)
  | .identifier => .keep (.moveTo inIdentifier)
  | .operator => .keep (.emit .operator)
  | .openParens => .keep (.emit .openParens)
  | .closeParens => .keep (.emit .closeParens)

theorem action?_start (c : Char) :
    automaton.action? StateId.start (some c) = (opening? c).map firstStep := by
  rw [Automaton.action?_eq_firstAction?, Automaton.state, automaton_states]
  have wordStart : IsWordStart c ↔ c.isAlpha = true ∨ c = '_' := Iff.rfl
  simp only [StateId.start, List.getD_cons_zero, firstAction?, CharClass.handles, CharClass.holds,
    List.contains_iff_mem, mem_blankCharacters, isDecimalDigit_eq, isLetter_eq, List.mem_singleton,
    opening?, wordStart, ite_or, apply_ite (Option.map firstStep)]
  rfl

theorem action?_inBlank (input : Option Char) :
    automaton.action? inBlank input =
      if Meets IsBlank input then some (.keep (.moveTo inBlank))
      else some (.leave (.emit .whitespace)) := by
  rw [Automaton.action?_eq_firstAction?, Automaton.state, automaton_states]
  simp only [List.getD_cons_succ, List.getD_cons_zero, firstAction?, CharClass.handles_oneOf,
    mem_blankCharacters, CharClass.handles_any, ↓reduceIte]
  rfl

theorem action?_inNumber (input : Option Char) :
    automaton.action? inNumber input =
      if Meets (·.isDigit) input then some (.keep (.moveTo inNumber))
      else if input = some '.' then some (.keep (.fail "floating point not supported".toList))
      else some (.leave (.emit .number)) := by
  rw [Automaton.action?_eq_firstAction?, Automaton.state, automaton_states]
  simp only [List.getD_cons_succ, List.getD_cons_zero, firstAction?, CharClass.handles_digit,
    CharClass.handles_singleton, CharClass.handles_any, ↓reduceIte]
  rfl

theorem action?_inIdentifier (input : Option Char) :
    automaton.action? inIdentifier input =
      if Meets IsWordPart input then some (.keep (.moveTo inIdentifier))
      else some (.leave (.emit .identifier)) := by
  rw [Automaton.action?_eq_firstAction?, Automaton.state, automaton_states]
  cases input with
  | none => rfl
  | some c =>
      simp only [List.getD_cons_succ, List.getD_cons_zero, firstAction?, CharClass.handles,
        CharClass.holds, List.contains_iff_mem, isDecimalDigit_eq, isLetter_eq, List.mem_singleton,
        Bool.or_eq_true, meets_some, IsWordPart, ite_or]
      rfl

/-! ### Reading lexemes -/

theorem action?_start_of_opens (opens : Opens kind c) :
    automaton.action? StateId.start (some c) = some (firstStep kind) := by
  rw [action?_start, opening?_eq_some opens]
  rfl

theorem reads_lexeme (lexeme : grammar.Lexeme kind value)
    (stops : ∀ c ∈ rest.head?, ¬Extends kind c) :
    automaton.Reads StateId.start [] (value ++ rest) (.token ⟨kind, value⟩ rest) := by
  obtain ⟨c, run, rfl, opens⟩ := exists_opens lexeme
  have starts := action?_start_of_opens opens
  cases kind with
  | whitespace =>
      have blanks : ∀ d ∈ run, IsBlank d := fun d member =>
        lexeme.2 d (List.mem_cons_of_mem c member)
      exact .keep starts (.run_of_meets (by decide) action?_inBlank blanks stops)
  | number =>
      refine .keep starts (.keep_run (by decide) ?_ ?_)
      · intro d member
        rw [action?_inNumber, if_pos (meets_some.mpr (lexeme.2 d (List.mem_cons_of_mem c member)))]
      · have noDigit : ¬Meets (·.isDigit) rest.head? :=
          not_meets_iff.mpr fun d first digit => stops d first (.inl digit)
        have noPoint : rest.head? ≠ some '.' := fun point => stops '.' point (.inr rfl)
        rw [action?_inNumber, if_neg noDigit, if_neg noPoint]
  | identifier =>
      obtain ⟨_, _, shape, _, parts⟩ := lexeme
      obtain ⟨rfl, rfl⟩ := List.cons.inj shape
      exact .keep starts (.run_of_meets (by decide) action?_inIdentifier parts stops)
  | operator =>
      obtain ⟨_, shape, _⟩ := lexeme
      obtain ⟨rfl, rfl⟩ := List.cons.inj shape
      exact .finish starts
  | openParens =>
      obtain ⟨rfl, rfl⟩ := List.cons.inj lexeme
      exact .finish starts
  | closeParens =>
      obtain ⟨rfl, rfl⟩ := List.cons.inj lexeme
      exact .finish starts

/-- In front of a character that opens a lexeme stands a lexeme that goes as far as it may, except
that a number may be followed by a point. -/
theorem exists_lexeme (opens : Opens kind c) (ahead : Text) :
    ∃ value rest, c :: ahead = value ++ rest ∧ grammar.Lexeme kind value ∧
      ∀ d ∈ rest.head?, Extends kind d → kind = .number ∧ d = '.' := by
  cases kind with
  | whitespace =>
      obtain ⟨run, rest, rfl, blank, stops⟩ := Text.exists_run IsBlank ahead
      refine ⟨c :: run, rest, rfl, ⟨List.cons_ne_nil c run, ?_⟩, ?_⟩
      · exact List.forall_mem_cons.mpr ⟨opens, blank⟩
      · intro d first goesOn
        exact absurd goesOn (stops d first)
  | number =>
      obtain ⟨run, rest, rfl, digits, stops⟩ := Text.exists_run (·.isDigit) ahead
      refine ⟨c :: run, rest, rfl, ⟨List.cons_ne_nil c run, ?_⟩, ?_⟩
      · exact List.forall_mem_cons.mpr ⟨opens, digits⟩
      · intro d first goesOn
        exact ⟨rfl, goesOn.resolve_left (stops d first)⟩
  | identifier =>
      obtain ⟨run, rest, rfl, parts, stops⟩ := Text.exists_run IsWordPart ahead
      refine ⟨c :: run, rest, rfl, ⟨c, run, rfl, opens, parts⟩, ?_⟩
      intro d first goesOn
      exact absurd goesOn (stops d first)
  | operator => exact ⟨[c], ahead, rfl, ⟨c, rfl, opens⟩, fun _ _ goesOn => goesOn.elim⟩
  | openParens =>
      obtain rfl : c = '(' := opens
      exact ⟨['('], ahead, rfl, rfl, fun _ _ goesOn => goesOn.elim⟩
  | closeParens =>
      obtain rfl : c = ')' := opens
      exact ⟨[')'], ahead, rfl, rfl, fun _ _ goesOn => goesOn.elim⟩

/-- A point behind the digits of a number ends the run. -/
theorem reads_point (lexeme : grammar.Lexeme .number value) (point : rest.head? = some '.') :
    automaton.Reads StateId.start [] (value ++ rest)
      (.fault (.explicit "floating point not supported".toList) inNumber rest) := by
  obtain ⟨c, run, rfl, opens⟩ := exists_opens lexeme
  refine .keep (action?_start_of_opens opens) (.keep_all ?_ (.fail (by decide) ?_))
  · intro d member
    rw [action?_inNumber, if_pos (meets_some.mpr (lexeme.2 d (List.mem_cons_of_mem c member)))]
  · rw [point]
    exact action?_inNumber (some '.')

theorem exists_reading (nonempty : text ≠ []) :
    ∃ reading, automaton.Reads StateId.start [] text reading ∧ grammar.Admits reading := by
  obtain ⟨c, ahead, rfl⟩ := List.exists_cons_of_ne_nil nonempty
  cases opening : opening? c with
  | none =>
      refine ⟨_, .unmatched (.inr nonempty) ?_, trivial⟩
      rw [List.head?_cons, action?_start, opening]
      rfl
  | some kind =>
      obtain ⟨value, rest, shape, lexeme, stops⟩ := exists_lexeme (opens_of_opening? opening) ahead
      rw [shape]
      by_cases broken : Meets (Extends kind) rest.head?
      · obtain ⟨d, first, goesOn⟩ := broken
        obtain ⟨rfl, rfl⟩ := stops d first goesOn
        exact ⟨_, reads_point lexeme first, trivial⟩
      · have stops := not_meets_iff.mp broken
        exact ⟨_, reads_lexeme lexeme stops, grammar_boundary.admits_of_stops lexeme stops⟩

theorem automaton_implements : automaton.Implements grammar where
  wellFormed := automaton_wellFormed
  value_ne_nil := grammar_boundary.not_lexeme_nil
  reads := by
    intro token rest lexeme follows
    apply reads_lexeme lexeme
    intro c first
    exact (grammar_boundary.stops_of_follows follows c first).1
  reads_lexeme := fun _ => exists_reading

/-- The lexer comes to an end on every text.  It accepts a text with exactly the tokens into which
the grammar divides it, and there is at most one such list of tokens. -/
theorem arithmetic_accepts_iff_divides (text : Text) :
    automaton.tokenize text ≠ .divergent ∧
    (∀ tokens, automaton.tokenize text = .accepted tokens ↔ grammar.Divides text tokens) ∧
    ∀ tokens others, grammar.Divides text tokens → grammar.Divides text others →
      tokens = others :=
  ⟨automaton_implements.tokenize_ne_divergent text,
    fun _ => automaton_implements.tokenize_eq_accepted_iff,
    fun _ _ => automaton_implements.eq_of_divides⟩

theorem wordBehindNumber_divides :
    grammar.Divides "42x_1 =".toList
        [⟨.number, "42".toList⟩, ⟨.identifier, "x_1".toList⟩, ⟨.whitespace, " ".toList⟩,
          ⟨.operator, "=".toList⟩] ∧
      ∀ others, grammar.Divides "42x_1 =".toList others →
        [⟨.number, "42".toList⟩, ⟨.identifier, "x_1".toList⟩, ⟨.whitespace, " ".toList⟩,
          ⟨.operator, "=".toList⟩] = others := by
  obtain ⟨_, exactly, unique⟩ := arithmetic_accepts_iff_divides "42x_1 =".toList
  have divides := (exactly [⟨.number, "42".toList⟩, ⟨.identifier, "x_1".toList⟩,
    ⟨.whitespace, " ".toList⟩, ⟨.operator, "=".toList⟩]).mp (by decide +kernel)
  exact ⟨divides, fun others otherDivides => unique _ others divides otherDivides⟩

end LexKit.Arithmetic

import LexKit.Lexers.Json
import LexKit.Proofs.Lexers.Grammar

/-!
The language of the JSON lexer.

The grammar gives the lexemes of each kind: a string is a sequence of complete items between quotes,
and a number may have a sign and a fraction.  Only blanks and numbers could be taken for parts of a
longer lexeme.  The lexer accepts exactly the texts that the grammar divides, and no text is divided
in two ways.  Where no lexeme goes on, one of a few failures describes what stands there instead.
-/

namespace LexKit.Json

/-! ### The grammar -/

/-- Braces, brackets, colon and comma. -/
def IsPunctuation (c : Char) : Prop :=
  c ∈ ['\x7b', '\x7d', '[', ']', ':', ',']
  deriving Decidable

/-- What may follow a backslash. -/
def IsEscape (c : Char) : Prop :=
  c ∈ ['"', '\\', '/', 'b', 'f', 'n', 'r', 't', 'u']
  deriving Decidable

/-- A character that stands for itself, or a backslash with the character that it escapes. -/
def IsStringItem (item : Text) : Prop :=
  (∃ c, item = [c] ∧ c ≠ '"' ∧ c ≠ '\\') ∨ ∃ c, item = ['\\', c] ∧ IsEscape c

def IsDigits (text : Text) : Prop :=
  text ≠ [] ∧ ∀ c ∈ text, c.isDigit

def IsFraction (text : Text) : Prop :=
  ∃ digits, text = '.' :: digits ∧ IsDigits digits

def grammar : Grammar Kind where
  Lexeme
    | .whitespace, value => value ≠ [] ∧ ∀ c ∈ value, IsBlank c
    | .punctuation, value => ∃ c, value = [c] ∧ IsPunctuation c
    | .keyword, value => value ∈ ["true".toList, "false".toList, "null".toList]
    | .number, value => ∃ sign whole fraction, value = sign ++ whole ++ fraction ∧
        (sign = [] ∨ sign = ['-']) ∧ IsDigits whole ∧ (fraction = [] ∨ IsFraction fraction)
    | .string, value => ∃ items : List Text, value = ['"'] ++ items.flatten ++ ['"'] ∧
        ∀ item ∈ items, IsStringItem item
  Adjoins left right :=
    ¬(left.kind = .whitespace ∧ right.kind = .whitespace) ∧
    ¬(left.kind = .number ∧ right.kind = .number ∧ ∃ c ∈ right.value.head?, c.isDigit)

/-! ### How lexemes begin and go on -/

/-- The characters with which a lexeme of a kind begins. -/
def Opens : Kind → Char → Prop
  | .whitespace, c => IsBlank c
  | .punctuation, c => IsPunctuation c
  | .keyword, c => c ∈ ['t', 'f', 'n']
  | .number, c => c.isDigit ∨ c = '-'
  | .string, c => c = '"'

/-- The characters that a lexeme of a kind would take in if they followed it. -/
def Extends : Kind → Char → Prop
  | .whitespace, c => IsBlank c
  | .number, c => c.isDigit
  | .punctuation, _ | .keyword, _ | .string, _ => False

/-! ### How lexemes break off -/

/-- The ways in which a text that began a lexeme, or should have, goes wrong. -/
inductive Failure where
  /-- The text ends inside of a string. -/
  | openString
  /-- A backslash in a string has nothing to escape. -/
  | strayBackslash
  /-- The sign of a number is not followed by a digit. -/
  | bareSign
  /-- The point of a number is not followed by a digit. -/
  | barePoint
  /-- A keyword is begun and then left. -/
  | brokenKeyword
  /-- No lexeme begins with the character. -/
  | strangeCharacter
  deriving DecidableEq

namespace Failure

/-- What a failure is reported as, if it shows at the given input. -/
def cause (input : Option Char) : Failure → FaultCause
  | openString => .explicit "unterminated string".toList
  | strayBackslash => .explicit "invalid escape sequence".toList
  | bareSign => .explicit "expected a digit after the minus sign".toList
  | barePoint => .explicit "expected a digit after the decimal point".toList
  | brokenKeyword | strangeCharacter => .unmatched input

/-- What has been passed since the last token when a failure shows, and what stands there. -/
def Describes (passed rest : Text) : Failure → Prop
  | openString => rest = [] ∧ ∃ items : List Text, passed = '"' :: items.flatten ∧
      ∀ item ∈ items, IsStringItem item
  | strayBackslash => ¬Meets IsEscape rest.head? ∧ ∃ items : List Text,
      passed = '"' :: items.flatten ++ ['\\'] ∧ ∀ item ∈ items, IsStringItem item
  | bareSign => ¬Meets (·.isDigit) rest.head? ∧ passed = ['-']
  | barePoint => ¬Meets (·.isDigit) rest.head? ∧ ∃ sign whole, passed = sign ++ whole ++ ['.'] ∧
      (sign = [] ∨ sign = ['-']) ∧ IsDigits whole
  | brokenKeyword => ∃ word ∈ ["true".toList, "false".toList, "null".toList],
      Text.IsLongestFront (· <+: word) (passed ++ rest) passed ∧ passed ≠ [] ∧
        passed.length < word.length
  | strangeCharacter => passed = [] ∧ ∃ c, rest.head? = some c ∧ ∀ kind, ¬Opens kind c

end Failure

/-- A lexeme behind which only tokens can begin that may follow it, or a fault that is reported for
a failure; in the start state only a strange character is. -/
def Accounts (text : Text) : Reading Kind → Prop
  | .token token rest => grammar.Admits (.token token rest)
  | .fault cause state rest => ∃ passed failure, text = passed ++ rest ∧
      Failure.Describes passed rest failure ∧ cause = failure.cause rest.head? ∧
      (failure = .strangeCharacter → state = StateId.start)

theorem Accounts.admits {text : Text} {reading : Reading Kind} (accounts : Accounts text reading) :
    grammar.Admits reading := by
  cases reading with
  | token token rest => exact accounts
  | fault cause state rest => trivial

variable {c : Char} {kind : Kind}
  {value text rest ahead pending sign whole fraction word : Text} {state : StateId}
  {token next : Token Kind} {items : List Text} {reading : Reading Kind}

theorem exists_opens (lexeme : grammar.Lexeme kind value) :
    ∃ c rest, value = c :: rest ∧ Opens kind c := by
  cases kind with
  | whitespace =>
      obtain ⟨c, rest, rfl⟩ := List.exists_cons_of_ne_nil lexeme.1
      exact ⟨c, rest, rfl, lexeme.2 c List.mem_cons_self⟩
  | punctuation =>
      obtain ⟨c, rfl, punctuation⟩ := lexeme
      exact ⟨c, [], rfl, punctuation⟩
  | keyword =>
      simp only [grammar, List.mem_cons, List.not_mem_nil, or_false] at lexeme
      rcases lexeme with rfl | rfl | rfl
      · exact ⟨'t', "rue".toList, rfl, by simp [Opens]⟩
      · exact ⟨'f', "alse".toList, rfl, by simp [Opens]⟩
      · exact ⟨'n', "ull".toList, rfl, by simp [Opens]⟩
  | number =>
      obtain ⟨sign, whole, fraction, rfl, signed, ⟨nonempty, digits⟩, _⟩ := lexeme
      obtain ⟨d, whole, rfl⟩ := List.exists_cons_of_ne_nil nonempty
      rcases signed with rfl | rfl
      · exact ⟨d, whole ++ fraction, rfl, .inl (digits d List.mem_cons_self)⟩
      · exact ⟨'-', d :: whole ++ fraction, rfl, .inr rfl⟩
  | string =>
      obtain ⟨items, rfl, _⟩ := lexeme
      exact ⟨'"', items.flatten ++ ['"'], rfl, rfl⟩

theorem kind_of_isBlank (opens : Opens kind c) (blank : IsBlank c) : kind = .whitespace := by
  cases kind with
  | whitespace => rfl
  | punctuation | keyword | number | string =>
      rcases blank with rfl | rfl | rfl | rfl <;> simp [Opens, IsPunctuation] at opens

theorem kind_of_isDigit (opens : Opens kind c) (digit : c.isDigit) : kind = .number := by
  cases kind with
  | number => rfl
  | whitespace =>
      rcases opens with rfl | rfl | rfl | rfl <;> simp at digit
  | punctuation | keyword =>
      simp only [Opens, IsPunctuation, List.mem_cons, List.not_mem_nil, or_false] at opens
      rcases opens with rfl | rfl | rfl | rfl | rfl | rfl <;> simp at digit
  | string =>
      obtain rfl : c = '"' := opens
      simp at digit

theorem ne_point_of_opens (opens : Opens kind c) : c ≠ '.' := by
  rintro rfl
  cases kind <;> simp [Opens, IsBlank, IsPunctuation] at opens

/-- Neighbours may stand side by side if the second one does not begin as the first one goes on. -/
theorem adjoins_iff_not_extends (opens : Opens next.kind c) (first : next.value.head? = some c) :
    grammar.Adjoins token next ↔ ¬Extends token.kind c := by
  have blank : IsBlank c ↔ next.kind = .whitespace := by
    refine ⟨kind_of_isBlank opens, ?_⟩
    intro own
    rw [own] at opens
    exact opens
  cases own : token.kind with
  | whitespace => simp [grammar, Extends, own, blank]
  | number =>
      have digit : c.isDigit → next.kind = .number := kind_of_isDigit opens
      simp only [grammar, Extends, own, first, Option.mem_some, exists_eq_left', reduceCtorEq,
        false_and, not_false_eq_true, true_and]
      tauto
  | punctuation | keyword | string => simp [grammar, Extends, own]

theorem grammar_boundary : grammar.Boundary Opens Extends where
  exists_opens := exists_opens
  adjoins_iff := adjoins_iff_not_extends

/-! ### The states of the lexer -/

abbrev inBlank : StateId := 1

abbrev inString : StateId := 2

abbrev behindBackslash : StateId := 3

abbrev inInteger : StateId := 4

abbrev behindSign : StateId := 5

abbrev behindPoint : StateId := 6

abbrev inFraction : StateId := 7

theorem automaton_states :
    automaton.states =
      [[{ on := .oneOf blankCharacters, disposition := some (.moveTo inBlank) },
        { on := .oneOf ['\x7b', '\x7d', '[', ']', ':', ','],
          disposition := some (.emit .punctuation) },
        { on := .oneOf ['"'], disposition := some (.moveTo inString) },
        { on := .digit, disposition := some (.moveTo inInteger) },
        { on := .oneOf ['-'], disposition := some (.moveTo behindSign) },
        { on := .oneOf ['t'], disposition := some (.moveTo 8) },
        { on := .oneOf ['f'], disposition := some (.moveTo 11) },
        { on := .oneOf ['n'], disposition := some (.moveTo 15) }],
       [{ on := .oneOf blankCharacters, disposition := some (.moveTo inBlank) },
        { on := .any, includes := false, rereads := true,
          disposition := some (.emit .whitespace) }],
       [{ on := .oneOf ['"'], disposition := some (.emit .string) },
        { on := .oneOf ['\\'], disposition := some (.moveTo behindBackslash) },
        { on := .endOfInput, disposition := some (.fail "unterminated string".toList) },
        { on := .any, disposition := some (.moveTo inString) }],
       [{ on := .oneOf ['"', '\\', '/', 'b', 'f', 'n', 'r', 't', 'u'],
          disposition := some (.moveTo inString) },
        { on := .any, disposition := some (.fail "invalid escape sequence".toList) }],
       [{ on := .digit, disposition := some (.moveTo inInteger) },
        { on := .oneOf ['.'], disposition := some (.moveTo behindPoint) },
        { on := .any, includes := false, rereads := true, disposition := some (.emit .number) }],
       [{ on := .digit, disposition := some (.moveTo inInteger) },
        { on := .any,
          disposition := some (.fail "expected a digit after the minus sign".toList) }],
       [{ on := .digit, disposition := some (.moveTo inFraction) },
        { on := .any,
          disposition := some (.fail "expected a digit after the decimal point".toList) }],
       [{ on := .digit, disposition := some (.moveTo inFraction) },
        { on := .any, includes := false, rereads := true, disposition := some (.emit .number) }],
       [{ on := .oneOf ['r'], disposition := some (.moveTo 9) }],
       [{ on := .oneOf ['u'], disposition := some (.moveTo 10) }],
       [{ on := .oneOf ['e'], disposition := some (.emit .keyword) }],
       [{ on := .oneOf ['a'], disposition := some (.moveTo 12) }],
       [{ on := .oneOf ['l'], disposition := some (.moveTo 13) }],
       [{ on := .oneOf ['s'], disposition := some (.moveTo 14) }],
       [{ on := .oneOf ['e'], disposition := some (.emit .keyword) }],
       [{ on := .oneOf ['u'], disposition := some (.moveTo 16) }],
       [{ on := .oneOf ['l'], disposition := some (.moveTo 17) }],
       [{ on := .oneOf ['l'], disposition := some (.emit .keyword) }]] := by
  decide +kernel

theorem automaton_wellFormed : automaton.WellFormed := by
  apply Automaton.wellFormed_of_targets
  · rw [Automaton.size, automaton_states]
    decide
  · rw [Automaton.size, automaton_states]
    decide

theorem action?_start (c : Char) :
    automaton.action? StateId.start (some c) =
      if IsBlank c then some (.keep (.moveTo inBlank))
      else if IsPunctuation c then some (.keep (.emit .punctuation))
      else if c = '"' then some (.keep (.moveTo inString))
      else if c.isDigit then some (.keep (.moveTo inInteger))
      else if c = '-' then some (.keep (.moveTo behindSign))
      else if c = 't' then some (.keep (.moveTo 8))
      else if c = 'f' then some (.keep (.moveTo 11))
      else if c = 'n' then some (.keep (.moveTo 15))
      else none := by
  rw [Automaton.action?_eq_firstAction?, Automaton.state, automaton_states]
  simp only [StateId.start, List.getD_cons_zero, firstAction?, CharClass.handles, CharClass.holds,
    List.contains_iff_mem, mem_blankCharacters, isDecimalDigit_eq, List.mem_singleton]
  rfl

theorem action?_inBlank (input : Option Char) :
    automaton.action? inBlank input =
      if Meets IsBlank input then some (.keep (.moveTo inBlank))
      else some (.leave (.emit .whitespace)) := by
  rw [Automaton.action?_eq_firstAction?, Automaton.state, automaton_states]
  simp only [List.getD_cons_succ, List.getD_cons_zero, firstAction?, CharClass.handles_oneOf,
    mem_blankCharacters, CharClass.handles_any, ↓reduceIte]
  rfl

theorem action?_inString (input : Option Char) :
    automaton.action? inString input =
      if input = some '"' then some (.keep (.emit .string))
      else if input = some '\\' then some (.keep (.moveTo behindBackslash))
      else if input = none then some (.keep (.fail "unterminated string".toList))
      else some (.keep (.moveTo inString)) := by
  rw [Automaton.action?_eq_firstAction?, Automaton.state, automaton_states]
  simp only [List.getD_cons_succ, List.getD_cons_zero, firstAction?, CharClass.handles_singleton,
    CharClass.handles_endOfInput, CharClass.handles_any, ↓reduceIte]
  rfl

theorem action?_behindBackslash (input : Option Char) :
    automaton.action? behindBackslash input =
      if Meets IsEscape input then some (.keep (.moveTo inString))
      else some (.keep (.fail "invalid escape sequence".toList)) := by
  rw [Automaton.action?_eq_firstAction?, Automaton.state, automaton_states]
  simp only [List.getD_cons_succ, List.getD_cons_zero, firstAction?, CharClass.handles_oneOf,
    CharClass.handles_any, ↓reduceIte]
  rfl

theorem action?_inInteger (input : Option Char) :
    automaton.action? inInteger input =
      if Meets (·.isDigit) input then some (.keep (.moveTo inInteger))
      else if input = some '.' then some (.keep (.moveTo behindPoint))
      else some (.leave (.emit .number)) := by
  rw [Automaton.action?_eq_firstAction?, Automaton.state, automaton_states]
  simp only [List.getD_cons_succ, List.getD_cons_zero, firstAction?, CharClass.handles_digit,
    CharClass.handles_singleton, CharClass.handles_any, ↓reduceIte]
  rfl

theorem action?_behindSign (input : Option Char) :
    automaton.action? behindSign input =
      if Meets (·.isDigit) input then some (.keep (.moveTo inInteger))
      else some (.keep (.fail "expected a digit after the minus sign".toList)) := by
  rw [Automaton.action?_eq_firstAction?, Automaton.state, automaton_states]
  simp only [List.getD_cons_succ, List.getD_cons_zero, firstAction?, CharClass.handles_digit,
    CharClass.handles_any, ↓reduceIte]
  rfl

theorem action?_behindPoint (input : Option Char) :
    automaton.action? behindPoint input =
      if Meets (·.isDigit) input then some (.keep (.moveTo inFraction))
      else some (.keep (.fail "expected a digit after the decimal point".toList)) := by
  rw [Automaton.action?_eq_firstAction?, Automaton.state, automaton_states]
  simp only [List.getD_cons_succ, List.getD_cons_zero, firstAction?, CharClass.handles_digit,
    CharClass.handles_any, ↓reduceIte]
  rfl

theorem action?_inFraction (input : Option Char) :
    automaton.action? inFraction input =
      if Meets (·.isDigit) input then some (.keep (.moveTo inFraction))
      else some (.leave (.emit .number)) := by
  rw [Automaton.action?_eq_firstAction?, Automaton.state, automaton_states]
  simp only [List.getD_cons_succ, List.getD_cons_zero, firstAction?, CharClass.handles_digit,
    CharClass.handles_any, ↓reduceIte]
  rfl

/-! ### Reading strings -/

theorem reads_items (complete : ∀ item ∈ items, IsStringItem item)
    (later : automaton.Reads inString (pending ++ items.flatten) ahead reading) :
    automaton.Reads inString pending (items.flatten ++ ahead) reading := by
  induction items generalizing pending with
  | nil => simpa using later
  | cons item items inductionHypothesis =>
      obtain ⟨isItem, complete⟩ := List.forall_mem_cons.mp complete
      have rest : automaton.Reads inString (pending ++ item) (items.flatten ++ ahead) reading :=
        inductionHypothesis complete (by simpa using later)
      rw [List.flatten_cons, List.append_assoc]
      rcases isItem with ⟨c, rfl, noQuote, noBackslash⟩ | ⟨c, rfl, escape⟩
      · refine .keep ?_ rest
        simp [action?_inString, noQuote, noBackslash]
      · refine .keep (action?_inString (some '\\')) (.keep ?_ (by simpa using rest))
        rw [action?_behindBackslash, if_pos (meets_some.mpr escape)]

/-- Where a string can not take in another item: at a quote, at the end of the text, and at a
backslash that escapes nothing. -/
def StopsItems (rest : Text) : Prop :=
  rest.head? = some '"' ∨ rest = [] ∨
    ∃ later, rest = '\\' :: later ∧ ¬Meets IsEscape later.head?

theorem exists_items (text : Text) :
    ∃ (items : List Text) (rest : Text), text = items.flatten ++ rest ∧
      (∀ item ∈ items, IsStringItem item) ∧ StopsItems rest := by
  induction length : text.length using Nat.strongRecOn generalizing text with
  | ind size inductionHypothesis =>
      have after {item later : Text} (isItem : IsStringItem item) (shape : text = item ++ later)
          (shorter : later.length < size) :
          ∃ (items : List Text) (rest : Text), text = items.flatten ++ rest ∧
            (∀ item ∈ items, IsStringItem item) ∧ StopsItems rest := by
        obtain ⟨items, rest, rfl, complete, stops⟩ := inductionHypothesis _ shorter later rfl
        refine ⟨item :: items, rest, ?_, List.forall_mem_cons.mpr ⟨isItem, complete⟩, stops⟩
        rw [shape, List.flatten_cons, List.append_assoc]
      cases text with
      | nil => exact ⟨[], [], rfl, by simp, .inr (.inl rfl)⟩
      | cons c text =>
          rw [List.length_cons] at length
          by_cases quote : c = '"'
          · exact ⟨[], c :: text, rfl, by simp, .inl (by simp [quote])⟩
          by_cases backslash : c = '\\'
          · subst backslash
            by_cases escaped : Meets IsEscape text.head?
            · obtain ⟨d, first, escape⟩ := escaped
              obtain ⟨text, rfl⟩ := List.head?_eq_some_iff.mp first
              rw [List.length_cons] at length
              exact after (.inr ⟨d, rfl, escape⟩) rfl (by omega)
            · exact ⟨[], '\\' :: text, rfl, by simp, .inr (.inr ⟨text, rfl, escaped⟩)⟩
          · exact after (.inl ⟨c, rfl, quote, backslash⟩) rfl (by omega)

theorem exists_reading_string (ahead : Text) :
    ∃ reading, automaton.Reads StateId.start [] ('"' :: ahead) reading ∧
      Accounts ('"' :: ahead) reading := by
  obtain ⟨items, rest, rfl, complete, stops⟩ := exists_items ahead
  rcases stops with quote | rfl | ⟨later, rfl, broken⟩
  · obtain ⟨rest, rfl⟩ := List.head?_eq_some_iff.mp quote
    have closes := action?_inString (some '"')
    refine ⟨_, .keep (action?_start '"') (reads_items complete (.finish closes)), ?_⟩
    exact grammar_boundary.admits_of_stops ⟨items, rfl, complete⟩ fun _ _ goesOn => goesOn
  · have fails := action?_inString none
    refine ⟨_, .keep (action?_start '"') (reads_items complete (.fail (by decide) fails)), ?_⟩
    exact ⟨'"' :: items.flatten, .openString, rfl, ⟨rfl, items, rfl, complete⟩, rfl, by simp⟩
  · have fails := action?_behindBackslash later.head?
    rw [if_neg broken] at fails
    have reads : automaton.Reads inString (['"'] ++ items.flatten) ('\\' :: later)
        (.fault (.explicit "invalid escape sequence".toList) behindBackslash later) :=
      .keep (action?_inString (some '\\')) (.fail (by decide) fails)
    refine ⟨_, .keep (action?_start '"') (reads_items complete reads), ?_⟩
    exact ⟨'"' :: items.flatten ++ ['\\'], .strayBackslash, by simp, ⟨broken, items, rfl, complete⟩,
      rfl, by simp⟩

/-! ### Reading numbers -/

/-- The sign and the whole part lead to the state in which a number may end. -/
theorem reads_whole (signed : sign = [] ∨ sign = ['-']) (digits : IsDigits whole)
    (later : automaton.Reads inInteger (sign ++ whole) ahead reading) :
    automaton.Reads StateId.start [] (sign ++ whole ++ ahead) reading := by
  obtain ⟨d, more, rfl⟩ := List.exists_cons_of_ne_nil digits.1
  obtain ⟨digit, rest⟩ := List.forall_mem_cons.mp digits.2
  have passes : automaton.Reads inInteger (sign ++ [d]) (more ++ ahead) reading := by
    refine .keep_all ?_ (by simpa using later)
    intro c member
    rw [action?_inInteger, if_pos (meets_some.mpr (rest c member))]
  have notBlank : ¬IsBlank d := by
    rintro (rfl | rfl | rfl | rfl) <;> simp at digit
  have notPunctuation : ¬IsPunctuation d := by
    intro punctuation
    simp only [IsPunctuation, List.mem_cons, List.not_mem_nil, or_false] at punctuation
    rcases punctuation with rfl | rfl | rfl | rfl | rfl | rfl <;> simp at digit
  have notQuote : d ≠ '"' := by
    rintro rfl
    simp at digit
  rcases signed with rfl | rfl
  · refine .keep ?_ passes
    simp [action?_start, notBlank, notPunctuation, notQuote, digit]
  · refine .keep (action?_start '-') (.keep ?_ passes)
    rw [action?_behindSign, if_pos (meets_some.mpr digit)]

theorem reads_end_of_integer (stops : ∀ c ∈ rest.head?, ¬c.isDigit ∧ c ≠ '.') :
    automaton.Reads inInteger pending rest (.token ⟨.number, pending⟩ rest) := by
  refine .leave (by decide) ?_
  have noDigit : ¬Meets (·.isDigit) rest.head? :=
    not_meets_iff.mpr fun c first => (stops c first).1
  have noPoint : rest.head? ≠ some '.' := fun point => (stops '.' point).2 rfl
  rw [action?_inInteger, if_neg noDigit, if_neg noPoint]

theorem reads_fraction (isFraction : IsFraction fraction) (stops : ∀ c ∈ rest.head?, ¬c.isDigit) :
    automaton.Reads inInteger pending (fraction ++ rest)
      (.token ⟨.number, pending ++ fraction⟩ rest) := by
  obtain ⟨decimals, rfl, nonempty, digits⟩ := isFraction
  obtain ⟨d, more, rfl⟩ := List.exists_cons_of_ne_nil nonempty
  obtain ⟨digit, digits⟩ := List.forall_mem_cons.mp digits
  have reads : automaton.Reads inFraction (pending ++ ['.'] ++ [d]) (more ++ rest)
      (.token ⟨.number, pending ++ ['.'] ++ [d] ++ more⟩ rest) :=
    .run_of_meets (by decide) action?_inFraction digits stops
  refine .keep (action?_inInteger (some '.')) (.keep ?_ (by simpa using reads))
  rw [action?_behindPoint, if_pos (meets_some.mpr digit)]

theorem exists_reading_whole (signed : sign = [] ∨ sign = ['-'])
    (digit : Meets (·.isDigit) ahead.head?) :
    ∃ reading, automaton.Reads StateId.start [] (sign ++ ahead) reading ∧
      Accounts (sign ++ ahead) reading := by
  obtain ⟨whole, rest, rfl, digits, stops⟩ := Text.exists_run (·.isDigit) ahead
  have isWhole : IsDigits whole := by
    refine ⟨?_, digits⟩
    rintro rfl
    obtain ⟨d, first, isDigit⟩ := digit
    exact stops d first isDigit
  rw [← List.append_assoc]
  by_cases point : rest.head? = some '.'
  · obtain ⟨later, rfl⟩ := List.head?_eq_some_iff.mp point
    obtain ⟨decimals, rest, rfl, digits, ends⟩ := Text.exists_run (·.isDigit) later
    by_cases empty : decimals = []
    · subst empty
      have fails := action?_behindPoint rest.head?
      rw [if_neg (not_meets_iff.mpr ends)] at fails
      have passes := action?_inInteger (some '.')
      refine ⟨_, reads_whole signed isWhole (.keep passes (.fail (by decide) fails)), ?_⟩
      exact ⟨sign ++ whole ++ ['.'], .barePoint, by simp,
        ⟨not_meets_iff.mpr ends, sign, whole, rfl, signed, isWhole⟩, rfl, by simp⟩
    · have isFraction : IsFraction ('.' :: decimals) := ⟨decimals, rfl, empty, digits⟩
      refine ⟨_, reads_whole signed isWhole (reads_fraction isFraction ends), ?_⟩
      apply grammar_boundary.admits_of_stops _ ends
      exact ⟨sign, whole, _, rfl, signed, isWhole, .inr isFraction⟩
  · refine ⟨_, reads_whole signed isWhole (reads_end_of_integer ?_), ?_⟩
    · intro c first
      refine ⟨stops c first, ?_⟩
      rintro rfl
      exact point first
    · refine grammar_boundary.admits_of_stops ⟨sign, whole, [], ?_, signed, isWhole, .inl rfl⟩ stops
      rw [List.append_nil]

theorem exists_reading_number (opens : Opens .number c) (ahead : Text) :
    ∃ reading, automaton.Reads StateId.start [] (c :: ahead) reading ∧
      Accounts (c :: ahead) reading := by
  rcases opens with digit | rfl
  · exact exists_reading_whole (.inl rfl) ⟨c, rfl, digit⟩
  · by_cases digit : Meets (·.isDigit) ahead.head?
    · exact exists_reading_whole (.inr rfl) digit
    · have fails := action?_behindSign ahead.head?
      rw [if_neg digit] at fails
      refine ⟨_, .keep (action?_start '-') (.fail (by decide) fails), ?_⟩
      exact ⟨['-'], .bareSign, rfl, ⟨digit, rfl⟩, rfl, by simp⟩

/-! ### Reading keywords -/

theorem spells_true : automaton.Spells .keyword 8 ['r', 'u', 'e'] := by
  refine .next (by decide) ?_ (.next (by decide) ?_ (.last (by decide) ?_)) <;>
    rw [Automaton.state, automaton_states] <;> rfl

theorem spells_false : automaton.Spells .keyword 11 ['a', 'l', 's', 'e'] := by
  refine .next (by decide) ?_
    (.next (by decide) ?_ (.next (by decide) ?_ (.last (by decide) ?_))) <;>
    rw [Automaton.state, automaton_states] <;> rfl

theorem spells_null : automaton.Spells .keyword 15 ['u', 'l', 'l'] := by
  refine .next (by decide) ?_ (.next (by decide) ?_ (.last (by decide) ?_)) <;>
    rw [Automaton.state, automaton_states] <;> rfl

theorem exists_reading_keyword (isKeyword : grammar.Lexeme .keyword (c :: word))
    (starts : automaton.action? StateId.start (some c) = some (.keep (.moveTo state)))
    (spells : automaton.Spells .keyword state word) (ahead : Text) :
    ∃ reading, automaton.Reads StateId.start [] (c :: ahead) reading ∧
      Accounts (c :: ahead) reading := by
  rcases spells.reads_cases [c] ahead with
    ⟨rest, rfl⟩ | ⟨spelled, missing, rest, stop, rfl, rfl, unfinished, apart, reads⟩
  · refine ⟨_, .keep starts (spells.reads rest), ?_⟩
    exact grammar_boundary.admits_of_stops isKeyword fun _ _ goesOn => goesOn
  · have longest : Text.IsLongestFront (· <+: c :: (spelled ++ missing)) (c :: spelled ++ rest)
        (c :: spelled) := by
      refine ⟨List.prefix_append (c :: spelled) missing, List.prefix_append _ _, ?_⟩
      intro other begins isFront
      exact Text.length_le_of_apart apart isFront begins
    have shorter : (c :: spelled).length < (c :: (spelled ++ missing)).length := by
      have positive := List.length_pos_of_ne_nil unfinished
      simp only [List.length_cons, List.length_append]
      omega
    refine ⟨_, .keep starts reads, c :: spelled, .brokenKeyword, rfl, ?_, rfl, by simp⟩
    exact ⟨_, isKeyword, longest, List.cons_ne_nil c spelled, shorter⟩

/-! ### Reading lexemes -/

theorem reads_blanks (lexeme : grammar.Lexeme .whitespace value)
    (stops : ∀ c ∈ rest.head?, ¬IsBlank c) :
    automaton.Reads StateId.start [] (value ++ rest) (.token ⟨.whitespace, value⟩ rest) := by
  obtain ⟨nonempty, blank⟩ := lexeme
  obtain ⟨c, run, rfl⟩ := List.exists_cons_of_ne_nil nonempty
  obtain ⟨first, blank⟩ := List.forall_mem_cons.mp blank
  have starts := action?_start c
  rw [if_pos first] at starts
  exact .keep starts (.run_of_meets (by decide) action?_inBlank blank stops)

theorem reads_punctuation (punctuation : IsPunctuation c) :
    automaton.Reads StateId.start [] (c :: rest) (.token ⟨.punctuation, [c]⟩ rest) := by
  refine .finish ?_
  simp only [IsPunctuation, List.mem_cons, List.not_mem_nil, or_false] at punctuation
  rcases punctuation with rfl | rfl | rfl | rfl | rfl | rfl <;> exact action?_start _

theorem reads_lexeme (lexeme : grammar.Lexeme kind value)
    (stops : ∀ c ∈ rest.head?, ¬Extends kind c ∧ c ≠ '.') :
    automaton.Reads StateId.start [] (value ++ rest) (.token ⟨kind, value⟩ rest) := by
  cases kind with
  | whitespace => exact reads_blanks lexeme fun c first => (stops c first).1
  | punctuation =>
      obtain ⟨c, rfl, punctuation⟩ := lexeme
      exact reads_punctuation punctuation
  | keyword =>
      simp only [grammar, List.mem_cons, List.not_mem_nil, or_false] at lexeme
      rcases lexeme with rfl | rfl | rfl
      · exact .keep (action?_start 't') (spells_true.reads rest)
      · exact .keep (action?_start 'f') (spells_false.reads rest)
      · exact .keep (action?_start 'n') (spells_null.reads rest)
  | number =>
      obtain ⟨sign, whole, fraction, rfl, signed, digits, rfl | isFraction⟩ := lexeme
      · rw [List.append_nil]
        exact reads_whole signed digits (reads_end_of_integer stops)
      · rw [List.append_assoc]
        refine reads_whole signed digits (reads_fraction isFraction ?_)
        exact fun c first => (stops c first).1
  | string =>
      obtain ⟨items, rfl, complete⟩ := lexeme
      have reads : automaton.Reads inString ['"'] (items.flatten ++ '"' :: rest)
          (.token ⟨.string, ['"'] ++ items.flatten ++ ['"']⟩ rest) :=
        reads_items complete (.finish (action?_inString (some '"')))
      simpa using Automaton.Reads.keep (action?_start '"') reads

theorem exists_reading (nonempty : text ≠ []) :
    ∃ reading, automaton.Reads StateId.start [] text reading ∧ Accounts text reading := by
  obtain ⟨c, ahead, rfl⟩ := List.exists_cons_of_ne_nil nonempty
  by_cases blank : IsBlank c
  · obtain ⟨run, rest, rfl, blanks, stops⟩ := Text.exists_run IsBlank ahead
    have lexeme : grammar.Lexeme .whitespace (c :: run) :=
      ⟨List.cons_ne_nil c run, List.forall_mem_cons.mpr ⟨blank, blanks⟩⟩
    exact ⟨_, reads_blanks lexeme stops, grammar_boundary.admits_of_stops lexeme stops⟩
  by_cases punctuation : IsPunctuation c
  · refine ⟨_, reads_punctuation punctuation, ?_⟩
    exact grammar_boundary.admits_of_stops ⟨c, rfl, punctuation⟩ fun _ _ goesOn => goesOn
  by_cases quote : c = '"'
  · rw [quote]
    exact exists_reading_string ahead
  by_cases number : Opens .number c
  · exact exists_reading_number number ahead
  by_cases inTrue : c = 't'
  · rw [inTrue]
    exact exists_reading_keyword (by simp [grammar]) (action?_start 't') spells_true ahead
  by_cases inFalse : c = 'f'
  · rw [inFalse]
    exact exists_reading_keyword (by simp [grammar]) (action?_start 'f') spells_false ahead
  by_cases inNull : c = 'n'
  · rw [inNull]
    exact exists_reading_keyword (by simp [grammar]) (action?_start 'n') spells_null ahead
  have strange : ∀ kind, ¬Opens kind c := by
    intro kind opens
    cases kind with
    | whitespace => exact blank opens
    | punctuation => exact punctuation opens
    | keyword => simp [Opens, inTrue, inFalse, inNull] at opens
    | number => exact number opens
    | string => exact quote opens
  refine ⟨_, .unmatched (.inr nonempty) ?_,
    [], .strangeCharacter, rfl, ⟨rfl, c, rfl, strange⟩, rfl, fun _ => rfl⟩
  obtain ⟨notDigit, notSign⟩ := not_or.mp number
  rw [List.head?_cons, action?_start, if_neg blank, if_neg punctuation, if_neg quote,
    if_neg notDigit, if_neg notSign, if_neg inTrue, if_neg inFalse, if_neg inNull]

theorem automaton_implements : automaton.Implements grammar where
  wellFormed := automaton_wellFormed
  value_ne_nil := grammar_boundary.not_lexeme_nil
  reads := by
    intro token rest lexeme follows
    apply reads_lexeme lexeme
    intro c first
    obtain ⟨stops, other, opens⟩ := grammar_boundary.stops_of_follows follows c first
    exact ⟨stops, ne_point_of_opens opens⟩
  reads_lexeme := by
    intro text nonempty
    obtain ⟨reading, reads, accounts⟩ := exists_reading nonempty
    exact ⟨reading, reads, accounts.admits⟩

/-- The lexer comes to an end on every text.  It accepts a text with exactly the tokens into which
the grammar divides it, and there is at most one such list of tokens. -/
theorem json_accepts_iff_divides (text : Text) :
    automaton.tokenize text ≠ .divergent ∧
    (∀ tokens, automaton.tokenize text = .accepted tokens ↔ grammar.Divides text tokens) ∧
    ∀ tokens others, grammar.Divides text tokens → grammar.Divides text others →
      tokens = others :=
  ⟨automaton_implements.tokenize_ne_divergent text,
    fun _ => automaton_implements.tokenize_eq_accepted_iff,
    fun _ _ => automaton_implements.eq_of_divides⟩

theorem signBehindNumber_divides :
    grammar.Divides "1.5-2\"\\\"a\"null".toList
        [⟨.number, "1.5".toList⟩, ⟨.number, "-2".toList⟩, ⟨.string, "\"\\\"a\"".toList⟩,
          ⟨.keyword, "null".toList⟩] ∧
      ∀ others, grammar.Divides "1.5-2\"\\\"a\"null".toList others →
        [⟨.number, "1.5".toList⟩, ⟨.number, "-2".toList⟩, ⟨.string, "\"\\\"a\"".toList⟩,
          ⟨.keyword, "null".toList⟩] = others := by
  obtain ⟨_, exactly, unique⟩ := json_accepts_iff_divides "1.5-2\"\\\"a\"null".toList
  have divides := (exactly [⟨.number, "1.5".toList⟩, ⟨.number, "-2".toList⟩,
    ⟨.string, "\"\\\"a\"".toList⟩, ⟨.keyword, "null".toList⟩]).mp (by decide +kernel)
  exact ⟨divides, fun others otherDivides => unique _ others divides otherDivides⟩

end LexKit.Json

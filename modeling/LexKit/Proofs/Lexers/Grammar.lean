import LexKit.Lexers.Blank
import LexKit.Proofs.Scan.FaultLocation
import LexKit.Proofs.Scan.TokenReading

/-!
Lexical grammars.

A grammar says which values are lexemes of a kind, and which tokens may stand side by side.  It
knows nothing of states or of the order in which a text is read.  An automaton that reads lexemes
one by one, each as far as it goes, accepts exactly the texts that the grammar divides, and finds
the only way to divide them.
-/

namespace LexKit

variable {κ : Type}

/-! ### Classes of characters -/

/-- A blank, a tab, or the end of a line. -/
def IsBlank (c : Char) : Prop :=
  c = ' ' ∨ c = '\t' ∨ c = '\r' ∨ c = '\n'
  deriving Decidable

theorem mem_blankCharacters {c : Char} : c ∈ blankCharacters ↔ IsBlank c := by
  simp [blankCharacters, IsBlank]

theorem isDecimalDigit_eq (c : Char) : isDecimalDigit c = c.isDigit := rfl

theorem isUpperLetter_eq (c : Char) : isUpperLetter c = c.isUpper := by
  have between : c.isUpper = decide (c.val ≥ 'A'.val ∧ c.val ≤ 'Z'.val) := rfl
  simp [isUpperLetter, between, Char.le_def]

theorem isLetter_eq (c : Char) : (isLowerLetter c || isUpperLetter c) = c.isAlpha := by
  rw [Bool.or_comm, isUpperLetter_eq]
  rfl

theorem not_isDigit_of_isAlpha {c : Char} (letter : c.isAlpha = true) : c.isDigit = false := by
  rw [← isLetter_eq] at letter
  rw [← isDecimalDigit_eq]
  simp only [isLowerLetter, isUpperLetter, isDecimalDigit, Char.le_def, Bool.or_eq_true,
    Bool.and_eq_true, decide_eq_true_eq, Bool.and_eq_false_iff, decide_eq_false_iff_not] at letter ⊢
  grind

/-- The input is a character of a class, and not the end of the text. -/
def Meets (inClass : Char → Prop) (input : Option Char) : Prop :=
  ∃ c ∈ input, inClass c

theorem meets_some {inClass : Char → Prop} {c : Char} :
    Meets inClass (some c) ↔ inClass c := by
  simp [Meets]

theorem not_meets_iff {inClass : Char → Prop} {input : Option Char} :
    ¬Meets inClass input ↔ ∀ c ∈ input, ¬inClass c := by
  simp [Meets]

instance (inClass : Char → Prop) [DecidablePred inClass] : DecidablePred (Meets inClass)
  | none => isFalse (by simp [Meets])
  | some _ => decidable_of_iff' _ meets_some

namespace CharClass

variable {input : Option Char}

theorem handles_oneOf {characters : Text} :
    (oneOf characters).handles input ↔ Meets (· ∈ characters) input := by
  cases input <;> simp [handles, holds, holdsEnd, Meets]

theorem handles_singleton {c : Char} : (oneOf [c]).handles input ↔ input = some c := by
  cases input <;> simp [handles, holds, holdsEnd]

theorem handles_digit : digit.handles input ↔ Meets (·.isDigit) input := by
  cases input <;> simp [handles, holds, holdsEnd, isDecimalDigit_eq, Meets]

theorem handles_endOfInput : endOfInput.handles input ↔ input = none := by
  cases input <;> simp [handles, holds, holdsEnd]

theorem handles_any : any.handles input := by
  cases input <;> rfl

end CharClass

/-- Every text begins with a run of characters of a class that goes as far as it may. -/
theorem Text.exists_run (inClass : Char → Prop) [DecidablePred inClass] (text : Text) :
    ∃ run rest, text = run ++ rest ∧ (∀ c ∈ run, inClass c) ∧ ∀ c ∈ rest.head?, ¬inClass c := by
  refine ⟨text.takeWhile (inClass ·), text.dropWhile (inClass ·), ?_, ?_, ?_⟩
  · rw [List.takeWhile_append_dropWhile]
  · intro c member
    simpa using List.mem_takeWhile_imp member
  · intro c first
    have stopped := List.head?_dropWhile_not (fun c => decide (inClass c)) text
    rw [Option.mem_def.mp first] at stopped
    simpa using stopped

/-- The longest of the fronts of a text that have a property. -/
structure Text.IsLongestFront (property : Text → Prop) (text front : Text) : Prop where
  holds : property front
  isFront : front <+: text
  longest : ∀ other, property other → other <+: text → other.length ≤ front.length

/-- Texts that come apart behind a common front have no longer front in common. -/
theorem Text.length_le_of_apart {front rest other common : Text}
    (apart : rest.head? ≠ other.head?) (first : common <+: front ++ rest)
    (second : common <+: front ++ other) : common.length ≤ front.length := by
  by_contra longer
  obtain ⟨more, rfl⟩ := List.prefix_of_prefix_length_le (List.prefix_append front rest) first
    (Nat.le_of_not_le longer)
  rw [List.prefix_append_right_inj] at first second
  cases more with
  | nil => simp at longer
  | cons c more =>
      obtain ⟨_, rfl⟩ := first
      obtain ⟨_, rfl⟩ := second
      exact apart rfl

/-! ### White space as tokens -/

/-- The token of a gap between other tokens, unless there is nothing in it. -/
def blankTokens (blank : κ) (gap : Text) : List (Token κ) :=
  if gap = [] then [] else [⟨blank, gap⟩]

theorem values_blankTokens (blank : κ) (gap : Text) :
    (blankTokens blank gap).flatMap Token.value = gap := by
  unfold blankTokens
  split_ifs with empty
  · exact empty.symm
  · simp

theorem mem_blankTokens {blank : κ} {gap : Text} {token : Token κ}
    (member : token ∈ blankTokens blank gap) : token = ⟨blank, gap⟩ ∧ gap ≠ [] := by
  unfold blankTokens at member
  split_ifs at member with empty
  · simp at member
  · exact ⟨List.mem_singleton.mp member, empty⟩

/-! ### Grammars -/

structure Grammar (κ : Type) where
  Lexeme : κ → Text → Prop
  /-- Whether a token may directly follow another one. -/
  Adjoins : Token κ → Token κ → Prop

namespace Grammar

/-- A text laid out as tokens: nothing is left over, each value is a lexeme of its kind, and all
neighbours may stand side by side. -/
structure Divides (grammar : Grammar κ) (text : Text) (tokens : List (Token κ)) : Prop where
  values : tokens.flatMap Token.value = text
  lexemes : ∀ token ∈ tokens, grammar.Lexeme token.kind token.value
  adjoining : tokens.IsChain grammar.Adjoins

/-- A token that could be the first one of a text. -/
def Begins (grammar : Grammar κ) (token : Token κ) (text : Text) : Prop :=
  grammar.Lexeme token.kind token.value ∧ token.value <+: text

/-- A fault, or a lexeme behind which only tokens can begin that may follow it. -/
def Admits (grammar : Grammar κ) : Reading κ → Prop
  | .token token rest => grammar.Lexeme token.kind token.value ∧
      ∀ next, grammar.Begins next rest → grammar.Adjoins token next
  | .fault _ _ _ => True

variable {grammar : Grammar κ} {text rest : Text} {token : Token κ} {tokens : List (Token κ)}

theorem Begins.head?_eq (begins : grammar.Begins token text) (nonempty : token.value ≠ []) :
    token.value.head? = text.head? := by
  obtain ⟨rest, whole⟩ := begins.2
  rw [← whole, List.head?_append_of_ne_nil _ nonempty]

theorem Divides.begins (divides : grammar.Divides text (token :: tokens)) :
    grammar.Begins token text := by
  refine ⟨divides.lexemes token List.mem_cons_self, ?_⟩
  rw [← divides.values, List.flatMap_cons]
  exact List.prefix_append _ _

theorem Divides.tail (divides : grammar.Divides text (token :: tokens)) :
    grammar.Divides (tokens.flatMap Token.value) tokens where
  values := rfl
  lexemes := fun other member => divides.lexemes other (List.mem_cons_of_mem _ member)
  adjoining := divides.adjoining.tail

theorem Divides.cons (divides : grammar.Divides rest tokens)
    (lexeme : grammar.Lexeme token.kind token.value)
    (adjoins : ∀ next, grammar.Begins next rest → grammar.Adjoins token next) :
    grammar.Divides (token.value ++ rest) (token :: tokens) where
  values := by rw [List.flatMap_cons, divides.values]
  lexemes := by
    intro other member
    rcases List.mem_cons.mp member with rfl | member
    · exact lexeme
    · exact divides.lexemes other member
  adjoining := by
    cases tokens with
    | nil => exact .singleton token
    | cons next tokens => exact .cons_cons (adjoins next divides.begins) divides.adjoining

/-- What can be told from one character: with which ones a lexeme begins, and which ones it would
take in if they followed it. -/
structure Boundary (grammar : Grammar κ) (Opens Extends : κ → Char → Prop) : Prop where
  exists_opens : ∀ {kind value}, grammar.Lexeme kind value →
    ∃ c rest, value = c :: rest ∧ Opens kind c
  adjoins_iff : ∀ {token next c}, Opens next.kind c → next.value.head? = some c →
    (grammar.Adjoins token next ↔ ¬Extends token.kind c)

namespace Boundary

variable {Opens Extends : κ → Char → Prop} {kind : κ} {value : Text}

theorem not_lexeme_nil (boundary : grammar.Boundary Opens Extends) (kind : κ) :
    ¬grammar.Lexeme kind [] := by
  intro lexeme
  obtain ⟨c, rest, shape, _⟩ := boundary.exists_opens lexeme
  cases shape

/-- The first character of a token that begins a text is that of the text. -/
theorem opens_of_begins (boundary : grammar.Boundary Opens Extends)
    (begins : grammar.Begins token text) :
    ∃ c, text.head? = some c ∧ token.value.head? = some c ∧ Opens token.kind c := by
  obtain ⟨c, rest, shape, opens⟩ := boundary.exists_opens begins.1
  have own : token.value.head? = some c := by rw [shape, List.head?_cons]
  have same := begins.head?_eq (by simp [shape])
  exact ⟨c, same.symm.trans own, own, opens⟩

theorem stops_of_follows (boundary : grammar.Boundary Opens Extends)
    (follows : rest = [] ∨ ∃ next, grammar.Begins next rest ∧ grammar.Adjoins token next) :
    ∀ c ∈ rest.head?, ¬Extends token.kind c ∧ ∃ kind, Opens kind c := by
  intro c first
  rcases follows with rfl | ⟨next, begins, adjoins⟩
  · simp at first
  · obtain ⟨d, head, own, opens⟩ := boundary.opens_of_begins begins
    obtain rfl : c = d := Option.some.inj ((Option.mem_def.mp first).symm.trans head)
    exact ⟨(boundary.adjoins_iff opens own).mp adjoins, next.kind, opens⟩

theorem admits_of_stops (boundary : grammar.Boundary Opens Extends)
    (lexeme : grammar.Lexeme kind value) (stops : ∀ c ∈ rest.head?, ¬Extends kind c) :
    grammar.Admits (.token ⟨kind, value⟩ rest) := by
  refine ⟨lexeme, ?_⟩
  intro next begins
  obtain ⟨c, head, own, opens⟩ := boundary.opens_of_begins begins
  exact (boundary.adjoins_iff opens own).mpr (stops c head)

end Boundary

end Grammar

namespace Automaton

/-- An automaton that reads every lexeme up to a token that may follow it, and that reads nothing
which the grammar does not admit. -/
structure Implements (automaton : Automaton κ) (grammar : Grammar κ) : Prop where
  wellFormed : automaton.WellFormed
  value_ne_nil : ∀ kind, ¬grammar.Lexeme kind []
  reads : ∀ token rest, grammar.Lexeme token.kind token.value →
    (rest = [] ∨ ∃ next, grammar.Begins next rest ∧ grammar.Adjoins token next) →
    automaton.Reads StateId.start [] (token.value ++ rest) (.token token rest)
  reads_lexeme : ∀ text ≠ [], ∃ reading, automaton.Reads StateId.start [] text reading ∧
    grammar.Admits reading

theorem wellFormed_of_targets {automaton : Automaton κ} (start : StateId.start < automaton.size)
    (inside : ∀ state ∈ automaton.states, ∀ transition ∈ state,
      ∀ target ∈ transition.target?, target < automaton.size) : automaton.WellFormed where
  start_lt := start
  target_lt := by
    intro id transition present target decided
    by_cases bounded : id < automaton.size
    · have member : automaton.state id ∈ automaton.states := by
        rw [Automaton.state, List.getD_eq_getElem?_getD, List.getElem?_eq_getElem bounded]
        exact List.getElem_mem bounded
      exact inside _ member transition present target (by simp [Transition.target?, decided])
    · rw [automaton.state_of_size_le (Nat.le_of_not_lt bounded)] at present
      simp at present

/-- A state that keeps the characters of a class and leaves everything else reads a run of them. -/
theorem Reads.run_of_meets {automaton : Automaton κ} {state : StateId} {kind : κ}
    {pending run rest : Text} {inClass : Char → Prop} [DecidablePred inClass]
    (inToken : state ≠ StateId.start)
    (acts : ∀ input, automaton.action? state input =
      if Meets inClass input then some (.keep (.moveTo state)) else some (.leave (.emit kind)))
    (members : ∀ c ∈ run, inClass c) (stops : ∀ c ∈ rest.head?, ¬inClass c) :
    automaton.Reads state pending (run ++ rest) (.token ⟨kind, pending ++ run⟩ rest) := by
  refine .keep_run inToken ?_ ?_
  · intro c member
    rw [acts, if_pos (meets_some.mpr (members c member))]
  · rw [acts, if_neg (not_meets_iff.mpr stops)]

theorem tokenize_nil {automaton : Automaton κ} (wellFormed : automaton.WellFormed) :
    automaton.tokenize [] = .accepted [] :=
  (ReadsTokens.none []).tokenize_eq wellFormed

namespace Implements

variable {automaton : Automaton κ} {grammar : Grammar κ} {text : Text} {tokens : List (Token κ)}

theorem readsTokens_of_divides (sound : automaton.Implements grammar)
    (divides : grammar.Divides text tokens) : automaton.ReadsTokens text tokens [] := by
  induction tokens generalizing text with
  | nil =>
      rw [← divides.values]
      exact .none []
  | cons token tokens inductionHypothesis =>
      have follows : tokens.flatMap Token.value = [] ∨
          ∃ next, grammar.Begins next (tokens.flatMap Token.value) ∧
            grammar.Adjoins token next := by
        cases tokens with
        | nil => exact .inl rfl
        | cons next tokens =>
            exact .inr ⟨next, divides.tail.begins, (List.isChain_cons_cons.mp divides.adjoining).1⟩
      have reads := sound.reads token _ (divides.lexemes token List.mem_cons_self) follows
      rw [← divides.values, List.flatMap_cons]
      exact .token reads (inductionHypothesis divides.tail)

theorem tokenize_of_divides (sound : automaton.Implements grammar)
    (divides : grammar.Divides text tokens) : automaton.tokenize text = .accepted tokens :=
  (sound.readsTokens_of_divides divides).tokenize_eq sound.wellFormed

/-- The text is divided lexeme by lexeme, as long as the automaton finds one. -/
theorem divides_or_breaks (sound : automaton.Implements grammar) (text : Text) :
    (∃ tokens, grammar.Divides text tokens) ∨
      ∃ tokens rest cause state stop, automaton.ReadsTokens text tokens rest ∧
        automaton.Reads StateId.start [] rest (.fault cause state stop) := by
  have advances : ∀ (_ : Text) token rest, grammar.Admits (.token token rest) →
      token.value ≠ [] := by
    intro _ token rest admits none
    have lexeme := admits.1
    rw [none] at lexeme
    exact sound.value_ne_nil _ lexeme
  induction text using reading_induction sound.reads_lexeme advances with
  | nil => exact .inl ⟨[], rfl, by simp, .nil⟩
  | fault text cause state stop reads =>
      exact .inr ⟨[], text, cause, state, stop, .none text, reads⟩
  | token text token rest reads admits inductionHypothesis =>
      rcases inductionHypothesis with
        ⟨tokens, divides⟩ | ⟨tokens, left, cause, state, stop, later, broken⟩
      · refine .inl ⟨token :: tokens, ?_⟩
        have whole : text = token.value ++ rest := reads.pending_append_ahead
        rw [whole]
        exact divides.cons admits.1 admits.2
      · exact .inr ⟨token :: tokens, left, cause, state, stop, .token reads later, broken⟩

theorem divides_or_rejected (sound : automaton.Implements grammar) (text : Text) :
    (∃ tokens, grammar.Divides text tokens) ∨
      ∃ fault, automaton.tokenize text = .rejected fault := by
  rcases sound.divides_or_breaks text with divides | ⟨_, _, _, _, _, reads, broken⟩
  · exact .inl divides
  · exact .inr ⟨_, (reads.tokenize_fault broken sound.wellFormed).1⟩

theorem tokenize_ne_divergent (sound : automaton.Implements grammar) (text : Text) :
    automaton.tokenize text ≠ .divergent := by
  rcases sound.divides_or_rejected text with ⟨tokens, divides⟩ | ⟨fault, rejected⟩
  · simp [sound.tokenize_of_divides divides]
  · simp [rejected]

theorem tokenize_eq_accepted_iff (sound : automaton.Implements grammar) :
    automaton.tokenize text = .accepted tokens ↔ grammar.Divides text tokens := by
  refine ⟨?_, sound.tokenize_of_divides⟩
  intro accepted
  rcases sound.divides_or_rejected text with ⟨found, divides⟩ | ⟨fault, rejected⟩
  · have same := sound.tokenize_of_divides divides
    rw [accepted, Outcome.accepted.injEq] at same
    rw [same]
    exact divides
  · simp [rejected] at accepted

theorem eq_of_divides (sound : automaton.Implements grammar) {other : List (Token κ)}
    (divides : grammar.Divides text tokens) (otherDivides : grammar.Divides text other) :
    tokens = other := by
  have accepted := sound.tokenize_of_divides divides
  rw [sound.tokenize_of_divides otherDivides, Outcome.accepted.injEq] at accepted
  exact accepted.symm

end Implements

end Automaton

end LexKit

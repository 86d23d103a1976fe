import LexKit.Proofs.Lexers.Arithmetic
import Mathlib.Data.List.DropRight

/-!
What the arithmetic lexer does not take.

The lexer knows a set of characters and takes every text that is made of them.  In any other text
the first stranger ends the run.  Only a point is told apart: behind a number it has a message of
its own, and whether a number stands in front of it can be told from the word that ends there,
however the text before was divided into tokens.
-/

namespace LexKit.Arithmetic

/-- A character that some lexeme has in it. -/
def IsKnown (c : Char) : Prop :=
  IsBlank c ∨ IsWordPart c ∨ IsOperator c ∨ c = '(' ∨ c = ')'
  deriving Decidable

/-- The letters, digits and underscores at the end of the text are some digits and nothing else. -/
def EndsInNumber (text : Text) : Prop :=
  text.rtakeWhile (IsWordPart ·) ≠ [] ∧ ∀ c ∈ text.rtakeWhile (IsWordPart ·), c.isDigit

instance : DecidablePred EndsInNumber :=
  fun _ => @instDecidableAnd _ _ inferInstance (List.decidableBAll _ _)

variable {c : Char} {kind : Kind} {value front tail later rest text : Text}

/-! ### Known characters -/

theorem isKnown_iff_opens : IsKnown c ↔ ∃ kind, Opens kind c := by
  constructor
  · rintro (blank | (letter | digit | rfl) | operator | rfl | rfl)
    · exact ⟨.whitespace, blank⟩
    · exact ⟨.identifier, .inl letter⟩
    · exact ⟨.number, digit⟩
    · exact ⟨.identifier, .inr rfl⟩
    · exact ⟨.operator, operator⟩
    · exact ⟨.openParens, rfl⟩
    · exact ⟨.closeParens, rfl⟩
  · rintro ⟨kind, opens⟩
    cases kind with
    | whitespace => exact .inl opens
    | number => exact .inr (.inl (.inr (.inl opens)))
    | identifier => exact .inr (.inl (opens.imp_right .inr))
    | operator => exact .inr (.inr (.inl opens))
    | openParens => exact .inr (.inr (.inr (.inl opens)))
    | closeParens => exact .inr (.inr (.inr (.inr opens)))

theorem opening?_eq_none (stranger : ¬IsKnown c) : opening? c = none := by
  cases opening : opening? c with
  | none => rfl
  | some kind => exact absurd (isKnown_iff_opens.mpr ⟨kind, opens_of_opening? opening⟩) stranger

theorem not_isKnown_point : ¬IsKnown '.' := by
  decide

theorem isWordPart_iff_opens : IsWordPart c ↔ Opens .number c ∨ Opens .identifier c := by
  simp only [IsWordPart, Opens, IsWordStart]
  tauto

/-- Only identifiers go on with characters with which they do not begin. -/
theorem opens_of_mem (lexeme : grammar.Lexeme kind value) :
    ∀ c ∈ value, Opens kind c ∨ kind = .identifier ∧ IsWordPart c := by
  intro c member
  cases kind with
  | whitespace => exact .inl (lexeme.2 c member)
  | number => exact .inl (lexeme.2 c member)
  | identifier =>
      obtain ⟨first, rest, rfl, start, parts⟩ := lexeme
      rcases List.mem_cons.mp member with rfl | member
      · exact .inl start
      · exact .inr ⟨rfl, parts c member⟩
  | operator =>
      obtain ⟨first, rfl, operator⟩ := lexeme
      obtain rfl := List.mem_singleton.mp member
      exact .inl operator
  | openParens =>
      obtain rfl : value = ['('] := lexeme
      exact .inl (List.mem_singleton.mp member)
  | closeParens =>
      obtain rfl : value = [')'] := lexeme
      exact .inl (List.mem_singleton.mp member)

theorem isKnown_of_mem (lexeme : grammar.Lexeme kind value) : ∀ c ∈ value, IsKnown c := by
  intro c member
  rcases opens_of_mem lexeme c member with opens | ⟨_, part⟩
  · exact isKnown_iff_opens.mpr ⟨kind, opens⟩
  · exact .inr (.inl part)

theorem kind_of_isWordPart (lexeme : grammar.Lexeme kind value) {c : Char} (member : c ∈ value)
    (part : IsWordPart c) : kind = .number ∨ kind = .identifier := by
  rcases opens_of_mem lexeme c member with opens | ⟨own, _⟩
  · have opening := opening?_eq_some opens
    rcases isWordPart_iff_opens.mp part with digit | start
    · exact .inl (Option.some.inj (opening.symm.trans (opening?_eq_some digit)))
    · exact .inr (Option.some.inj (opening.symm.trans (opening?_eq_some start)))
  · exact .inr own

/-! ### The word in front of a point -/

theorem rtakeWhile_append_digits {before digits : Text} (allDigits : ∀ c ∈ digits, c.isDigit)
    (stops : ∀ c ∈ before.getLast?, ¬IsWordPart c) :
    (before ++ digits).rtakeWhile (IsWordPart ·) = digits := by
  have taken : ∀ c ∈ digits.reverse, decide (IsWordPart c) = true := by
    intro c member
    exact decide_eq_true (.inr (.inl (allDigits c (List.mem_reverse.mp member))))
  have nothing : before.rtakeWhile (IsWordPart ·) = [] := by
    rw [List.rtakeWhile_eq_nil_iff]
    intro nonempty
    simpa using stops _ (List.getLast?_eq_some_getLast nonempty)
  rw [List.rtakeWhile, List.reverse_append, List.takeWhile_append_of_pos taken,
    List.reverse_append, List.reverse_reverse]
  rw [List.rtakeWhile] at nothing
  rw [nothing, List.nil_append]

theorem endsInNumber_iff :
    EndsInNumber text ↔ ∃ before digits, text = before ++ digits ∧ digits ≠ [] ∧
      (∀ c ∈ digits, c.isDigit) ∧ ∀ c ∈ before.getLast?, ¬IsWordPart c := by
  constructor
  · rintro ⟨nonempty, digits⟩
    refine ⟨text.rdropWhile (IsWordPart ·), _, ?_, nonempty, digits, ?_⟩
    · rw [List.rdropWhile_append_rtakeWhile]
    · intro c last
      have remains : text.rdropWhile (IsWordPart ·) ≠ [] := by
        intro empty
        simp [empty] at last
      have stops := List.rdropWhile_last_not (IsWordPart ·) text remains
      rw [List.getLast?_eq_some_getLast remains, Option.mem_some] at last
      rwa [last, decide_eq_true_eq] at stops
  · rintro ⟨before, digits, rfl, nonempty, allDigits, stops⟩
    rw [EndsInNumber, rtakeWhile_append_digits allDigits stops]
    exact ⟨nonempty, allDigits⟩

/-- The digits at the end of an identifier are no number: a part of the identifier precedes them. -/
theorem exists_isWordPart_before {before digits : Text}
    (lexeme : grammar.Lexeme .identifier (before ++ digits)) (nonempty : digits ≠ [])
    (allDigits : ∀ c ∈ digits, c.isDigit) : ∃ c ∈ before.getLast?, IsWordPart c := by
  have parts : ∀ c ∈ before ++ digits, IsWordPart c := by
    intro c member
    rcases opens_of_mem lexeme c member with start | ⟨_, part⟩
    · exact isWordPart_iff_opens.mpr (.inr start)
    · exact part
  have remains : before ≠ [] := by
    rintro rfl
    obtain ⟨c, rest, shape, start⟩ := exists_opens lexeme
    obtain rfl : digits = c :: rest := shape
    have digit : Opens .number c := allDigits c List.mem_cons_self
    have both := (opening?_eq_some start).symm.trans (opening?_eq_some digit)
    simp at both
  refine ⟨before.getLast remains, List.getLast?_eq_some_getLast remains, ?_⟩
  exact parts _ (List.mem_append_left _ (List.getLast_mem remains))

/-- In front of a point, a token that was read to its end has no part in the word there. -/
theorem endsInNumber_append (lexeme : grammar.Lexeme kind value)
    (stops : ∀ c ∈ (later ++ tail).head?, ¬Extends kind c) (point : tail.head? = some '.') :
    EndsInNumber (value ++ later) ↔ EndsInNumber later := by
  have noDigit (inWord : kind = .number ∨ kind = .identifier) : ∀ c ∈ later.head?, ¬c.isDigit := by
    intro c first digit
    have ahead : c ∈ (later ++ tail).head? := by
      rw [List.head?_append, Option.mem_def.mp first]
      rfl
    rcases inWord with rfl | rfl
    · exact stops c ahead (.inl digit)
    · exact stops c ahead (.inr (.inl digit))
  rw [endsInNumber_iff, endsInNumber_iff]
  constructor
  · rintro ⟨before, digits, shape, nonempty, allDigits, stopsWord⟩
    rcases List.append_eq_append_iff.mp shape with ⟨middle, rfl, rfl⟩ | ⟨own, rfl, rfl⟩
    · refine ⟨middle, digits, rfl, nonempty, allDigits, ?_⟩
      intro c last
      apply stopsWord c
      rw [List.getLast?_append, Option.mem_def.mp last]
      rfl
    · obtain ⟨ownDigits, laterDigits⟩ := List.forall_mem_append.mp allDigits
      -- The number lies behind the token: no token ends with the first digits of a longer number.
      have outside : own = [] := by
        by_contra inside
        obtain ⟨d, rest, rfl⟩ := List.exists_cons_of_ne_nil inside
        have digit := ownDigits d List.mem_cons_self
        have inWord := kind_of_isWordPart lexeme (by simp : d ∈ before ++ d :: rest)
          (.inr (.inl digit))
        rcases inWord with rfl | rfl
        · cases later with
          | nil => exact stops '.' point (.inr rfl)
          | cons e later =>
              exact noDigit (.inl rfl) e rfl (laterDigits e List.mem_cons_self)
        · obtain ⟨c, last, part⟩ := exists_isWordPart_before lexeme inside ownDigits
          exact stopsWord c last part
      subst outside
      exact ⟨[], later, rfl, nonempty, laterDigits, by simp⟩
  · rintro ⟨before, digits, rfl, nonempty, allDigits, stopsWord⟩
    refine ⟨value ++ before, digits, by rw [List.append_assoc], nonempty, allDigits, ?_⟩
    intro c last part
    rw [List.getLast?_append] at last
    cases before with
    | nil =>
        obtain ⟨d, rest, rfl⟩ := List.exists_cons_of_ne_nil nonempty
        have inWord := kind_of_isWordPart lexeme (List.mem_of_getLast? last) part
        exact noDigit inWord d rfl (allDigits d List.mem_cons_self)
    | cons e before => exact stopsWord c (by simpa [List.getLast?_cons] using last) part

/-! ### Reading up to the first stranger -/

/-- A run of known characters goes no further than the known characters of the text. -/
theorem exists_later (known : ∀ c ∈ value, IsKnown c) (stranger : ∀ c ∈ tail.head?, ¬IsKnown c)
    (shape : front ++ tail = value ++ rest) :
    ∃ later, front = value ++ later ∧ rest = later ++ tail := by
  rcases List.append_eq_append_iff.mp shape with ⟨beyond, rfl, rfl⟩ | ⟨later, rfl, rfl⟩
  · cases beyond with
    | nil => exact ⟨[], by simp, rfl⟩
    | cons c beyond => exact absurd (known c (by simp)) (stranger c rfl)
  · exact ⟨later, rfl, rfl⟩

/-- What is left of a text behind the tokens that are read in front of the first stranger: the
stranger itself, unless it is a point behind a number. -/
inductive Leaves (front tail : Text) : Text → Prop where
  | stranger (noNumber : tail.head? = some '.' → ¬EndsInNumber front) : Leaves front tail tail
  | number {digits : Text} (lexeme : grammar.Lexeme .number digits)
      (point : tail.head? = some '.') (behind : EndsInNumber front) :
      Leaves front tail (digits ++ tail)

theorem exists_leaves (known : ∀ c ∈ front, IsKnown c) (stranger : ∀ c ∈ tail.head?, ¬IsKnown c) :
    ∃ tokens left, automaton.ReadsTokens (front ++ tail) tokens left ∧ Leaves front tail left := by
  induction length : front.length using Nat.strongRecOn generalizing front with
  | ind size inductionHypothesis =>
      cases front with
      | nil => exact ⟨[], tail, .none tail, .stranger fun _ ends => by simp [EndsInNumber] at ends⟩
      | cons c more =>
          obtain ⟨kind, opens⟩ := isKnown_iff_opens.mp (known c List.mem_cons_self)
          obtain ⟨value, rest, shape, lexeme, stops⟩ := exists_lexeme opens (more ++ tail)
          rw [← List.cons_append] at shape
          obtain ⟨later, whole, rfl⟩ := exists_later (isKnown_of_mem lexeme) stranger shape
          rw [whole] at known length ⊢
          have laterKnown : ∀ d ∈ later, IsKnown d := (List.forall_mem_append.mp known).2
          by_cases broken : Meets (Extends kind) (later ++ tail).head?
          · obtain ⟨d, first, goesOn⟩ := broken
            obtain ⟨rfl, rfl⟩ := stops d first goesOn
            cases later with
            | nil =>
                have behind : EndsInNumber (value ++ []) :=
                  endsInNumber_iff.mpr ⟨[], value, by simp, lexeme.1, lexeme.2, by simp⟩
                refine ⟨[], _, .none _, ?_⟩
                rw [List.append_nil] at behind ⊢
                exact .number lexeme first behind
            | cons e later =>
                obtain rfl : e = '.' := Option.some.inj first
                exact absurd (laterKnown '.' List.mem_cons_self) not_isKnown_point
          · have stops := not_meets_iff.mp broken
            have shorter : later.length < size := by
              obtain ⟨d, run, rfl, _⟩ := exists_opens lexeme
              simp only [List.length_append, List.length_cons] at length
              omega
            obtain ⟨tokens, left, reads, leaves⟩ :=
              inductionHypothesis _ shorter laterKnown rfl
            refine ⟨⟨kind, value⟩ :: tokens, left, ?_, ?_⟩
            · rw [List.append_assoc]
              exact .token (reads_lexeme lexeme stops) reads
            · cases leaves with
              | stranger noNumber =>
                  refine .stranger fun point ends => noNumber point ?_
                  exact (endsInNumber_append lexeme stops point).mp ends
              | number lexemeNumber point behind =>
                  exact .number lexemeNumber point
                    ((endsInNumber_append lexeme stops point).mpr behind)

theorem tokenize_of_known (known : ∀ c ∈ text, IsKnown c) :
    ∃ tokens, automaton.tokenize text = .accepted tokens := by
  obtain ⟨tokens, left, reads, leaves⟩ := exists_leaves known (by simp : ∀ c ∈ [].head?, ¬IsKnown c)
  rw [List.append_nil] at reads
  cases leaves with
  | stranger => exact ⟨tokens, reads.tokenize_eq automaton_wellFormed⟩
  | number _ point => simp at point

theorem tokenize_of_stranger (known : ∀ d ∈ front, IsKnown d) (stranger : ¬IsKnown c)
    (rest : Text) :
    ∃ fault, automaton.tokenize (front ++ c :: rest) = .rejected fault ∧
      fault.offset = front.length ∧
      if c = '.' ∧ EndsInNumber front then
        fault.cause = .explicit "floating point not supported".toList
      else fault.cause = .unmatched (some c) ∧ fault.state = StateId.start := by
  have offset : (front ++ c :: rest).length - (c :: rest).length = front.length := by
    rw [List.length_append, Nat.add_sub_cancel]
  obtain ⟨tokens, left, reads, leaves⟩ :=
    exists_leaves known (by simpa using stranger : ∀ d ∈ (c :: rest).head?, ¬IsKnown d)
  cases leaves with
  | stranger noNumber =>
      have unmatched : automaton.Reads StateId.start [] (c :: rest)
          (.fault (.unmatched (some c)) StateId.start (c :: rest)) := by
        refine .unmatched (.inr (List.cons_ne_nil c rest)) ?_
        rw [List.head?_cons, action?_start, opening?_eq_none stranger]
        rfl
      refine ⟨_, (reads.tokenize_fault unmatched automaton_wellFormed).1, offset, ?_⟩
      rw [if_neg]
      · exact ⟨rfl, rfl⟩
      · rintro ⟨rfl, ends⟩
        exact noNumber rfl ends
  | number lexeme point behind =>
      have fails := reads_point lexeme point
      refine ⟨_, (reads.tokenize_fault fails automaton_wellFormed).1, offset, ?_⟩
      rw [if_pos ⟨Option.some.inj point, behind⟩]

theorem exists_stranger (unknown : ¬∀ c ∈ text, IsKnown c) :
    ∃ front c rest, text = front ++ c :: rest ∧ (∀ d ∈ front, IsKnown d) ∧ ¬IsKnown c := by
  obtain ⟨front, tail, rfl, known, stranger⟩ := Text.exists_run IsKnown text
  cases tail with
  | nil => exact absurd (by simpa using known) unknown
  | cons c rest => exact ⟨front, c, rest, rfl, known, stranger c rfl⟩

/-- The lexer accepts the texts that are made of known characters.  In any other text it gives up at
the first character that is not known, and so never at the end: with a message of its own if this is
a point behind a number, and otherwise because the start state has nothing for the character. -/
theorem arithmetic_rejects_first_stranger (text : Text) :
    ((∃ tokens, automaton.tokenize text = .accepted tokens) ↔ ∀ c ∈ text, IsKnown c) ∧
    (∀ front c rest, text = front ++ c :: rest → (∀ d ∈ front, IsKnown d) → ¬IsKnown c →
      ∃ fault, automaton.tokenize text = .rejected fault ∧ fault.offset = front.length ∧
        (fault.cause = .explicit "floating point not supported".toList ↔
          c = '.' ∧ EndsInNumber front) ∧
        (¬(c = '.' ∧ EndsInNumber front) →
          fault.cause = .unmatched (some c) ∧ fault.state = StateId.start)) ∧
    ∀ fault, automaton.tokenize text = .rejected fault → fault.offset < text.length := by
  refine ⟨⟨?_, tokenize_of_known⟩, ?_, ?_⟩
  · rintro ⟨tokens, accepted⟩
    by_contra unknown
    obtain ⟨front, c, rest, rfl, known, stranger⟩ := exists_stranger unknown
    obtain ⟨fault, rejected, _⟩ := tokenize_of_stranger known stranger rest
    simp [rejected] at accepted
  · rintro front c rest rfl known stranger
    obtain ⟨fault, rejected, offset, reason⟩ := tokenize_of_stranger known stranger rest
    refine ⟨fault, rejected, offset, ?_⟩
    split_ifs at reason with behindNumber
    · exact ⟨⟨fun _ => behindNumber, fun _ => reason⟩, fun none => absurd behindNumber none⟩
    · refine ⟨⟨?_, fun behind => absurd behind behindNumber⟩, fun _ => reason⟩
      intro explicit
      rw [reason.1] at explicit
      cases explicit
  · intro fault rejected
    have unknown : ¬∀ c ∈ text, IsKnown c := by
      intro known
      obtain ⟨tokens, accepted⟩ := tokenize_of_known known
      simp [rejected] at accepted
    obtain ⟨front, c, rest, rfl, known, stranger⟩ := exists_stranger unknown
    obtain ⟨other, same, offset, _⟩ := tokenize_of_stranger known stranger rest
    rw [rejected, Outcome.rejected.injEq] at same
    rw [same, offset, List.length_append, List.length_cons]
    omega

theorem pointsBehindWords_rejected :
    (∀ d ∈ "7b+45".toList, IsKnown d) ∧ EndsInNumber "7b+45".toList ∧
      (∀ d ∈ "45+7b3".toList, IsKnown d) ∧ ¬EndsInNumber "45+7b3".toList ∧ ¬IsKnown '.' ∧
      (∃ fault, automaton.tokenize "7b+45.5".toList = .rejected fault ∧ fault.offset = 5 ∧
        fault.cause = .explicit "floating point not supported".toList) ∧
      (∃ fault, automaton.tokenize "45+7b3.".toList = .rejected fault ∧ fault.offset = 6 ∧
        fault.offset < 7 ∧ fault.cause = .unmatched (some '.') ∧ fault.state = StateId.start) := by
  have allKnown {text : Text} (all : text.all (IsKnown ·) = true) : ∀ d ∈ text, IsKnown d := by
    simpa using all
  have known : ∀ d ∈ "7b+45".toList, IsKnown d := allKnown (by decide)
  have number : EndsInNumber "7b+45".toList := by decide
  have otherKnown : ∀ d ∈ "45+7b3".toList, IsKnown d := allKnown (by decide)
  have noNumber : ¬EndsInNumber "45+7b3".toList := by decide
  have stranger : ¬IsKnown '.' := by decide
  obtain ⟨_, strangers, _⟩ := arithmetic_rejects_first_stranger "7b+45.5".toList
  obtain ⟨fault, rejected, offset, point, _⟩ :=
    strangers "7b+45".toList '.' ['5'] rfl known stranger
  obtain ⟨_, otherStrangers, inside⟩ := arithmetic_rejects_first_stranger "45+7b3.".toList
  obtain ⟨other, otherRejected, otherOffset, _, unmatched⟩ :=
    otherStrangers "45+7b3".toList '.' [] rfl otherKnown stranger
  obtain ⟨cause, state⟩ := unmatched fun behind => noNumber behind.2
  exact ⟨known, number, otherKnown, noNumber, stranger,
    ⟨fault, rejected, offset, point.mpr ⟨rfl, number⟩⟩,
    ⟨other, otherRejected, otherOffset, inside other otherRejected, cause, state⟩⟩

end LexKit.Arithmetic

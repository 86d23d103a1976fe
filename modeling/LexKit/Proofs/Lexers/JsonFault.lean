import LexKit.Proofs.Lexers.Json
import LexKit.Proofs.Text.SelfDelimiting
import Mathlib.Tactic.Lift

/-!
What the JSON lexer does not take.

Behind the last token of a text that is rejected stands something that is no lexeme.  The place of
the fault divides it in two: what was passed, and what could not be.  Both together tell one failure
from all others, and the failure tells what is reported.
-/

namespace LexKit.Json

variable {c : Char} {kind other : Kind} {passed rest text : Text} {items others : List Text}

theorem opens_unique (opens : Opens kind c) (otherOpens : Opens other c) : kind = other := by
  cases kind with
  | whitespace => exact (kind_of_isBlank otherOpens opens).symm
  | punctuation | keyword =>
      simp only [Opens, IsPunctuation, List.mem_cons, List.not_mem_nil, or_false] at opens
      rcases opens with rfl | rfl | rfl | rfl | rfl | rfl <;>
        cases other <;> simp [Opens, IsBlank, IsPunctuation] at otherOpens ⊢
  | number =>
      rcases opens with digit | rfl
      · exact (kind_of_isDigit otherOpens digit).symm
      · cases other <;> simp [Opens, IsBlank, IsPunctuation] at otherOpens ⊢
  | string =>
      obtain rfl : c = '"' := opens
      cases other <;> simp [Opens, IsBlank, IsPunctuation] at otherOpens ⊢

/-! ### The items of a string -/

/-- Where an item ends can be told from the item. -/
theorem selfDelimiting_item :
    SelfDelimiting (Subtype.val : { item // IsStringItem item } → Text) := by
  rintro ⟨left, leftItem⟩ ⟨right, rightItem⟩ rest other same
  rcases leftItem with ⟨c, rfl, _, plain⟩ | ⟨c, rfl, _⟩
  · rcases rightItem with ⟨d, rfl, _, _⟩ | ⟨d, rfl, _⟩
    · obtain ⟨rfl, sameRest⟩ := List.cons.inj same
      exact ⟨rfl, sameRest⟩
    · exact absurd (List.cons.inj same).1 plain
  · rcases rightItem with ⟨d, rfl, _, plain⟩ | ⟨d, rfl, _⟩
    · exact absurd (List.cons.inj same).1.symm plain
    · obtain ⟨rfl, sameRest⟩ := List.cons.inj (List.cons.inj same).2
      exact ⟨rfl, sameRest⟩

theorem stops_lone_backslash :
    Stops (Subtype.val : { item // IsStringItem item } → Text) ['\\'] := by
  rintro ⟨item, isItem⟩ rest same
  rcases isItem with ⟨c, rfl, _, plain⟩ | ⟨c, rfl, _⟩
  · exact plain (List.cons.inj same).1.symm
  · simp at same

theorem stops_end : Stops (Subtype.val : { item // IsStringItem item } → Text) [] := by
  rintro ⟨item, isItem⟩ rest same
  rcases isItem with ⟨c, rfl, _⟩ | ⟨c, rfl, _⟩ <;> simp at same

/-- Complete items do not end in a backslash that escapes nothing. -/
theorem flatten_ne_append_backslash (complete : ∀ item ∈ items, IsStringItem item)
    (otherComplete : ∀ item ∈ others, IsStringItem item) :
    items.flatten ≠ others.flatten ++ ['\\'] := by
  lift items to List { item // IsStringItem item } using complete
  lift others to List { item // IsStringItem item } using otherComplete
  intro same
  rw [← List.flatMap_def, ← List.flatMap_def, ← List.append_nil (items.flatMap _)] at same
  have rests := (selfDelimiting_item.flatMap_append stops_end stops_lone_backslash same).2
  simp at rests

/-! ### One failure at a time -/

namespace Failure

variable {failure other : Failure}

/-- The kind of the lexeme that was begun. -/
def kind? : Failure → Option Kind
  | openString | strayBackslash => some .string
  | bareSign | barePoint => some .number
  | brokenKeyword => some .keyword
  | strangeCharacter => none

theorem exists_opens (describes : failure.Describes passed rest)
    (begun : failure.kind? = some kind) : ∃ c, passed.head? = some c ∧ Opens kind c := by
  cases failure with
  | openString =>
      cases begun
      obtain ⟨_, items, rfl, _⟩ := describes
      exact ⟨'"', rfl, rfl⟩
  | strayBackslash =>
      cases begun
      obtain ⟨_, items, rfl, _⟩ := describes
      exact ⟨'"', rfl, rfl⟩
  | bareSign =>
      cases begun
      obtain ⟨_, rfl⟩ := describes
      exact ⟨'-', rfl, .inr rfl⟩
  | barePoint =>
      cases begun
      obtain ⟨_, sign, whole, rfl, signed, nonempty, digits⟩ := describes
      obtain ⟨d, more, rfl⟩ := List.exists_cons_of_ne_nil nonempty
      rcases signed with rfl | rfl
      · exact ⟨d, rfl, .inl (digits d List.mem_cons_self)⟩
      · exact ⟨'-', rfl, .inr rfl⟩
  | brokenKeyword =>
      cases begun
      obtain ⟨word, isKeyword, longest, nonempty, _⟩ := describes
      obtain ⟨c, more, rfl⟩ := List.exists_cons_of_ne_nil nonempty
      obtain ⟨missing, rfl⟩ := longest.holds
      have lexeme : grammar.Lexeme .keyword (c :: more ++ missing) := isKeyword
      obtain ⟨d, _, shape, opens⟩ := Json.exists_opens lexeme
      obtain ⟨rfl, _⟩ := List.cons.inj shape
      exact ⟨c, rfl, opens⟩
  | strangeCharacter => simp [kind?] at begun

theorem passed_eq_nil (describes : failure.Describes passed rest)
    (notBegun : failure.kind? = none) : passed = [] := by
  cases failure with
  | strangeCharacter => exact describes.1
  | _ => simp [kind?] at notBegun

theorem kind?_unique (describes : failure.Describes passed rest)
    (otherDescribes : other.Describes passed rest) : failure.kind? = other.kind? := by
  cases own : failure.kind? with
  | none =>
      cases theirs : other.kind? with
      | none => rfl
      | some kind =>
          obtain ⟨c, first, _⟩ := exists_opens otherDescribes theirs
          simp [passed_eq_nil describes own] at first
  | some kind =>
      obtain ⟨c, first, opens⟩ := exists_opens describes own
      cases theirs : other.kind? with
      | none => simp [passed_eq_nil otherDescribes theirs] at first
      | some otherKind =>
          obtain ⟨d, otherFirst, otherOpens⟩ := exists_opens otherDescribes theirs
          obtain rfl := Option.some.inj (first.symm.trans otherFirst)
          rw [opens_unique opens otherOpens]

theorem not_strayBackslash_of_openString (isOpen : openString.Describes passed rest) :
    ¬strayBackslash.Describes passed rest := by
  rintro ⟨_, others, sameText, otherComplete⟩
  obtain ⟨_, items, rfl, complete⟩ := isOpen
  exact flatten_ne_append_backslash complete otherComplete (List.cons.inj sameText).2

theorem not_barePoint_of_bareSign (isBare : bareSign.Describes passed rest) :
    ¬barePoint.Describes passed rest := by
  rintro ⟨_, sign, whole, sameText, _⟩
  obtain ⟨_, rfl⟩ := isBare
  have last := congrArg List.getLast? sameText
  simp at last

/-- No two failures describe the same text with the fault at the same place. -/
theorem unique (describes : failure.Describes passed rest)
    (otherDescribes : other.Describes passed rest) : failure = other := by
  have sameKind := kind?_unique describes otherDescribes
  -- Failures that break off different kinds of lexemes are already told apart.
  cases failure with
  | openString =>
      cases other with
      | openString => rfl
      | strayBackslash => exact absurd otherDescribes (not_strayBackslash_of_openString describes)
      | _ => simp [kind?] at sameKind
  | strayBackslash =>
      cases other with
      | openString => exact absurd describes (not_strayBackslash_of_openString otherDescribes)
      | strayBackslash => rfl
      | _ => simp [kind?] at sameKind
  | bareSign =>
      cases other with
      | bareSign => rfl
      | barePoint => exact absurd otherDescribes (not_barePoint_of_bareSign describes)
      | _ => simp [kind?] at sameKind
  | barePoint =>
      cases other with
      | bareSign => exact absurd describes (not_barePoint_of_bareSign otherDescribes)
      | barePoint => rfl
      | _ => simp [kind?] at sameKind
  | brokenKeyword =>
      cases other with
      | brokenKeyword => rfl
      | _ => simp [kind?] at sameKind
  | strangeCharacter =>
      cases other with
      | strangeCharacter => rfl
      | _ => simp [kind?] at sameKind

end Failure

/-- A text that is rejected consists of what the tokens took, what was passed behind the last of
them and what stands at the fault.  Exactly one failure describes the latter two, and it is the one
that is reported. -/
theorem json_faults_classified (text : Text) (fault : Fault)
    (rejected : automaton.tokenize text = .rejected fault) :
    ∃ front passed rest failure, text = front ++ passed ++ rest ∧
      front.length = automaton.lastTokenEnd text ∧ (front ++ passed).length = fault.offset ∧
      Failure.Describes passed rest failure ∧ fault.cause = failure.cause rest.head? ∧
      (failure = .strangeCharacter → fault.state = StateId.start) ∧
      ∀ other, Failure.Describes passed rest other → other = failure := by
  have advances : ∀ text token rest, Accounts text (.token token rest) → token.value ≠ [] := by
    intro text token rest accounts empty
    have lexeme := accounts.admits.1
    rw [empty] at lexeme
    exact grammar_boundary.not_lexeme_nil _ lexeme
  obtain ⟨tokens, left, reads, _, rfl | ⟨cause, state, rest, broken, accounts⟩⟩ :=
    Automaton.exists_readsTokens (fun _ => exists_reading) advances text
  · simp [reads.tokenize_eq automaton_wellFormed] at rejected
  · obtain ⟨reported, place⟩ := reads.tokenize_fault broken automaton_wellFormed
    rw [rejected, Outcome.rejected.injEq] at reported
    obtain ⟨passed, failure, rfl, describes, named, inStart⟩ := accounts
    have shape := reads.text_eq
    refine ⟨tokens.flatMap Token.value, passed, rest, failure, ?_, ?_, ?_, describes, ?_, ?_, ?_⟩
    · rw [shape, List.append_assoc]
    · rw [place, shape, List.length_append, Nat.add_sub_cancel]
    · rw [reported, shape]
      simp only [List.length_append]
      omega
    · rw [reported, named]
    · intro strange
      rw [reported, inStart strange]
    · intro other otherDescribes
      exact Failure.unique otherDescribes describes

theorem danglingBackslash_classified :
    automaton.tokenize "12 \"a\\".toList = .rejected
        ⟨.explicit "invalid escape sequence".toList, ⟨1, 6⟩, 6, 3⟩ ∧
      ∃ front passed rest failure, "12 \"a\\".toList = front ++ passed ++ rest ∧
        front.length = automaton.lastTokenEnd "12 \"a\\".toList ∧ (front ++ passed).length = 6 ∧
        Failure.Describes passed rest failure ∧
        .explicit "invalid escape sequence".toList = failure.cause rest.head? := by
  have rejected : automaton.tokenize "12 \"a\\".toList = .rejected
      ⟨.explicit "invalid escape sequence".toList, ⟨1, 6⟩, 6, 3⟩ := by decide +kernel
  refine ⟨rejected, ?_⟩
  obtain ⟨front, passed, rest, failure, shape, tokens, place, describes, named, _⟩ :=
    json_faults_classified _ _ rejected
  exact ⟨front, passed, rest, failure, shape, tokens, place, describes, named⟩

end LexKit.Json

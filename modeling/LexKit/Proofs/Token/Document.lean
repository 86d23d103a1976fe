import LexKit.Proofs.Text.SelfDelimiting
import LexKit.Token.Document

/-!
A written queue tells its tokens.

Each character of a string can be read off the front of what is written for it, so the quote that
closes a string is the first one without a backslash, whatever the string holds.  With the closing
quotes the objects are told apart, and with the objects the whole array, in both layouts.  Only the
position of the queue is not written.
-/

namespace LexKit

/-! ### Reading escaped characters -/

/-- The value of a hexadecimal digit in lower case. -/
def hexValue (digit : Char) : Nat :=
  "0123456789abcdef".toList.idxOf digit

/-- The letters that stand for a character behind a backslash. -/
def jsonLetters : List (Char × Char) :=
  [('"', '"'), ('\\', '\\'), ('b', '\x08'), ('f', '\x0c'), ('n', '\n'), ('r', '\r'), ('t', '\t')]

/-- Read a character behind its backslash.  Of a code only the last two digits count, as codes are
written for control characters alone. -/
def readJsonEscape? : Text → Option (Char × Text)
  | 'u' :: _ :: _ :: high :: low :: rest =>
      some (Char.ofNat (16 * hexValue high + hexValue low), rest)
  | letter :: rest => (jsonLetters.lookup letter).map (·, rest)
  | [] => none

/-- Read one character of a string.  The quote at its end is none. -/
def readJsonChar? : Text → Option (Char × Text)
  | '\\' :: rest => readJsonEscape? rest
  | '"' :: _ => none
  | c :: rest => some (c, rest)
  | [] => none

theorem hexValue_digitChar {digit : Nat} (small : digit < 16) :
    hexValue (Nat.digitChar digit) = digit := by
  revert digit
  decide

theorem readJsonChar?_jsonChar (c : Char) (rest : Text) :
    readJsonChar? (jsonChar c ++ rest) = some (c, rest) := by
  unfold jsonChar
  split_ifs with quote backslash backspace formFeed newline carriage tab control
  · rw [quote]; rfl
  · rw [backslash]; rfl
  · rw [backspace]; rfl
  · rw [formFeed]; rfl
  · rw [newline]; rfl
  · rw [carriage]; rfl
  · rw [tab]; rfl
  · have value : 16 * hexValue (Nat.digitChar (c.toNat / 16)) +
        hexValue (Nat.digitChar (c.toNat % 16)) = c.toNat := by
      rw [hexValue_digitChar (by omega), hexValue_digitChar (by omega), Nat.div_add_mod]
    simp only [List.cons_append, List.nil_append, readJsonChar?, readJsonEscape?, value,
      Char.ofNat_toNat]
  · simp [readJsonChar?]

theorem selfDelimiting_jsonChar : SelfDelimiting jsonChar :=
  .of_read readJsonChar?_jsonChar

theorem stops_jsonChar_quote (rest : Text) : Stops jsonChar ('"' :: rest) := by
  intro c behind begins
  have read := congrArg readJsonChar? begins
  rw [readJsonChar?_jsonChar] at read
  cases read

theorem selfDelimiting_jsonString : SelfDelimiting jsonString :=
  selfDelimiting_jsonChar.quoted stops_jsonChar_quote

/-! ### Objects and arrays -/

variable {κ : Type} [TokenKind κ]

/-- An object tells its token, whatever fixed text stands around the two strings. -/
theorem selfDelimiting_object (distinct : Function.Injective fun kind : κ => TokenKind.name kind)
    (opening middle closing : Text) :
    SelfDelimiting fun token : Token κ =>
      opening ++ jsonString (TokenKind.name token.kind) ++ middle ++ jsonString token.value ++
        closing := by
  rintro ⟨kind, value⟩ ⟨otherKind, otherValue⟩ rest other same
  simp only [List.append_assoc, List.append_cancel_left_eq] at same
  obtain ⟨sameName, sameBehindKind⟩ := selfDelimiting_jsonString same
  obtain ⟨sameValue, sameBehindValue⟩ :=
    selfDelimiting_jsonString (List.append_cancel_left sameBehindKind)
  obtain rfl := distinct sameName
  exact ⟨by rw [sameValue], List.append_cancel_left sameBehindValue⟩

namespace TokenQueue

variable {left right : TokenQueue κ}

theorem tokens_eq_of_toJson (distinct : Function.Injective fun kind : κ => TokenKind.name kind)
    (same : left.toJson = right.toJson) : left.tokens = right.tokens := by
  have delimiting : SelfDelimiting (Token.toJson : Token κ → Text) :=
    selfDelimiting_object distinct _ _ _
  have stops : Stops (Token.toJson : Token κ → Text) [']'] :=
    stops_of_head (fun _ => ⟨_, rfl⟩) (by decide) []
  simp only [toJson, List.append_assoc, List.append_cancel_left_eq] at same
  exact delimiting.join_inj stops (by simp) same

theorem toPrettyJson_of_isEmpty {queue : TokenQueue κ} (empty : queue.tokens = []) :
    queue.toPrettyJson = ['[', ']'] := by
  simp [toPrettyJson, isEmpty, empty]

theorem toPrettyJson_of_ne_nil {queue : TokenQueue κ} (nonempty : queue.tokens ≠ []) :
    queue.toPrettyJson =
      ['[', '\n'] ++ (Text.join [',', '\n'] (queue.tokens.map Token.toPrettyJson) ++
        ['\n', ']']) := by
  simp [toPrettyJson, isEmpty, nonempty]

theorem tokens_eq_of_toPrettyJson
    (distinct : Function.Injective fun kind : κ => TokenKind.name kind)
    (same : left.toPrettyJson = right.toPrettyJson) : left.tokens = right.tokens := by
  have delimiting : SelfDelimiting (Token.toPrettyJson : Token κ → Text) :=
    selfDelimiting_object distinct _ _ _
  have stops : Stops (Token.toPrettyJson : Token κ → Text) ['\n', ']'] :=
    stops_of_head (fun _ => ⟨_, rfl⟩) (by decide) [']']
  by_cases leftEmpty : left.tokens = []
  · by_cases rightEmpty : right.tokens = []
    · rw [leftEmpty, rightEmpty]
    · -- Only the array without items closes behind its bracket.
      rw [toPrettyJson_of_isEmpty leftEmpty, toPrettyJson_of_ne_nil rightEmpty] at same
      simp at same
  · by_cases rightEmpty : right.tokens = []
    · rw [toPrettyJson_of_ne_nil leftEmpty, toPrettyJson_of_isEmpty rightEmpty] at same
      simp at same
    · rw [toPrettyJson_of_ne_nil leftEmpty, toPrettyJson_of_ne_nil rightEmpty] at same
      exact delimiting.join_inj stops (by simp) (List.append_cancel_left same)

end TokenQueue

/-- If no two kinds have one name, two queues are written alike, in either layout, exactly when they
hold the same tokens.  Their positions do not matter. -/
theorem documents_equal_iff (distinct : Function.Injective fun kind : κ => TokenKind.name kind)
    (left right : TokenQueue κ) :
    (left.toJson = right.toJson ↔ left.tokens = right.tokens) ∧
      (left.toPrettyJson = right.toPrettyJson ↔ left.tokens = right.tokens) := by
  refine ⟨⟨TokenQueue.tokens_eq_of_toJson distinct, ?_⟩,
    ⟨TokenQueue.tokens_eq_of_toPrettyJson distinct, ?_⟩⟩
  · intro same
    rw [TokenQueue.toJson, TokenQueue.toJson, same]
  · intro same
    have sameEmpty : left.isEmpty = right.isEmpty := congrArg List.isEmpty same
    rw [TokenQueue.toPrettyJson, TokenQueue.toPrettyJson, sameEmpty, same]

/-- One token whose value holds the text that would end it and begin a second one. -/
def oneLookalike : TokenQueue Label :=
  .ofTokens [⟨⟨"a".toList⟩, "x\"\x7d,\x7b\"type\":\"b\",\"value\":\"y".toList⟩]

/-- The two tokens at which it hints. -/
def twoTokens : TokenQueue Label :=
  .ofTokens [⟨⟨"a".toList⟩, "x".toList⟩, ⟨⟨"b".toList⟩, "y".toList⟩]

theorem lookalike_documents_differ :
    (Function.Injective fun kind : Label => TokenKind.name kind) ∧
      oneLookalike.toJson ≠ twoTokens.toJson ∧
      oneLookalike.toPrettyJson ≠ twoTokens.toPrettyJson ∧
      twoTokens.advance ≠ twoTokens ∧
      twoTokens.advance.toJson = twoTokens.toJson ∧
      twoTokens.advance.toPrettyJson = twoTokens.toPrettyJson := by
  have distinct : Function.Injective fun kind : Label => TokenKind.name kind := by
    rintro ⟨name⟩ ⟨other⟩ same
    exact congrArg Label.mk same
  have lookalike := documents_equal_iff distinct oneLookalike twoTokens
  have moved := documents_equal_iff distinct twoTokens.advance twoTokens
  have different : oneLookalike.tokens ≠ twoTokens.tokens := by decide
  exact ⟨distinct, lookalike.1.not.mpr different, lookalike.2.not.mpr different, by decide,
    moved.1.mpr rfl, moved.2.mpr rfl⟩

end LexKit

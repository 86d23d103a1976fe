import LexKit.Proofs.Text.SelfDelimiting
import LexKit.Token.Basic

/-!
Tokens as they are shown can be told apart.

The name of a kind is shown as it is, so it may hold anything: spaces, quotes, even what looks like
the value of another token.  The value is found from the end of what is shown.  In an escaped value
every single quote stands directly behind a backslash, whereas the quote that opens the value stands
behind a space.
-/

namespace LexKit

/-- Every single quote of a text stands directly behind a backslash. -/
def QuotesEscaped (text : Text) : Prop :=
  ∀ front behind, text = front ++ '\x27' :: behind → front.getLast? = some '\\'

namespace QuotesEscaped

variable {left right : Text}

theorem of_notMem (absent : '\x27' ∉ left) : QuotesEscaped left := by
  intro front behind same
  exact absurd (by simp [same]) absent

theorem append (leftEscaped : QuotesEscaped left) (rightEscaped : QuotesEscaped right) :
    QuotesEscaped (left ++ right) := by
  intro front behind same
  rcases List.append_eq_append_iff.mp same with ⟨between, rfl, inRight⟩ | ⟨between, inLeft, shared⟩
  · rw [List.getLast?_append, rightEscaped between behind inRight]
    rfl
  · cases between with
    | nil =>
        -- The right text begins with the quote, so no backslash of its own stands before it.
        have bare := rightEscaped [] behind shared.symm
        simp at bare
    | cons c between =>
        obtain ⟨rfl, _⟩ := List.cons.inj shared
        exact leftEscaped front between inLeft

theorem flatMap {α : Type} {write : α → Text} (escaped : ∀ value, QuotesEscaped (write value))
    (values : List α) : QuotesEscaped (values.flatMap write) := by
  induction values with
  | nil => exact of_notMem List.not_mem_nil
  | cons value values inductionHypothesis =>
      rw [List.flatMap_cons]
      exact (escaped value).append inductionHypothesis

theorem escapedQuote : QuotesEscaped ['\\', '\x27'] := by
  intro front behind same
  match front with
  | [] => simp at same
  | [c] =>
      obtain ⟨rfl, _⟩ := List.cons.inj same
      rfl
  | _ :: _ :: front => simp at same

end QuotesEscaped

theorem Shows.quote_notMem {c : Char} {shown : Text} (shows : Shows c shown)
    (different : c ≠ '\x27') : '\x27' ∉ shown := by
  cases shows with
  | plain => simpa using different.symm
  | letter escapes =>
      have table : ∀ entry ∈ letterEscapes, entry.1 ≠ '\x27' → entry.2 ≠ '\x27' := by decide
      simpa using (table _ escapes different).symm
  | codePoint =>
      have noDigit : '\x27' ∉ Text.hexadecimal c.toNat := by
        intro member
        simpa using Text.isAlphanum_of_mem_hexadecimal member
      simpa [escapeCodePoint] using noDigit

theorem EscapeStyle.quotesEscaped_render {style : EscapeStyle} (escapes : style.singleQuotes = true)
    (c : Char) : QuotesEscaped (style.render c) := by
  by_cases quote : c = '\x27'
  · have shown : style.render '\x27' = ['\\', '\x27'] := by simp [render, escapes]
    rw [quote, shown]
    exact .escapedQuote
  · exact .of_notMem ((style.shows_render c).quote_notMem quote)

theorem quotesEscaped_escapeText (text : Text) : QuotesEscaped (escapeText text) := by
  cases text with
  | nil => exact .of_notMem List.not_mem_nil
  | cons c rest =>
      exact (EscapeStyle.quotesEscaped_render rfl c).append
        (.flatMap (EscapeStyle.quotesEscaped_render rfl) rest)

theorem escapeText_injective : Function.Injective escapeText := by
  intro left right same
  exact (escapeText_quote_inj (congrArg (· ++ ['"']) same)).1

/-- A space and a quote in an escaped text are not taken for those that open it. -/
theorem QuotesEscaped.opening_unique {front left right : Text} (escaped : QuotesEscaped left)
    (same : ' ' :: '\x27' :: left = front ++ ' ' :: '\x27' :: right) : front = [] := by
  match front with
  | [] => rfl
  | [c] => simp at same
  | _ :: _ :: front =>
      simp only [List.cons_append, List.cons.injEq] at same
      have inside : left = (front ++ [' ']) ++ '\x27' :: right := by simpa using same.2.2
      have backslash := escaped _ _ inside
      simp at backslash

theorem append_singleQuoted_inj {front other left right : Text}
    (same : front ++ [' '] ++ singleQuoted left = other ++ [' '] ++ singleQuoted right) :
    front = other ∧ left = right := by
  simp only [singleQuoted, ← List.append_assoc, List.append_cancel_right_eq] at same
  have opened : front ++ ' ' :: '\x27' :: escapeText left =
      other ++ ' ' :: '\x27' :: escapeText right := by
    simpa using same
  have sameFront : front = other := by
    rcases List.append_eq_append_iff.mp opened with ⟨more, rfl, behind⟩ | ⟨more, rfl, behind⟩
    · rw [(quotesEscaped_escapeText left).opening_unique behind, List.append_nil]
    · rw [(quotesEscaped_escapeText right).opening_unique behind, List.append_nil]
  subst sameFront
  have sameValue := List.append_cancel_left opened
  simp only [List.cons.injEq, true_and] at sameValue
  exact ⟨rfl, escapeText_injective sameValue⟩

/-- Tokens whose kinds are nothing but names are shown alike only if they are equal, whatever stands
in the names and values. -/
theorem rendered_tokens_equal_iff (left right : Token Label) :
    left.render = right.render ↔ left = right := by
  constructor
  · intro same
    obtain ⟨⟨name⟩, value⟩ := left
    obtain ⟨⟨otherName⟩, otherValue⟩ := right
    have parts : name = otherName ∧ value = otherValue := append_singleQuoted_inj same
    rw [parts.1, parts.2]
  · intro same
    rw [same]

/-- One token is shown as `a 'b' 'c'`, and the value of the other one holds what stands there between
the outer quotes. -/
example : Token.render (⟨⟨"a 'b'".toList⟩, "c".toList⟩ : Token Label) ≠
    Token.render (⟨⟨"a".toList⟩, "b' 'c".toList⟩ : Token Label) := by
  decide +kernel

end LexKit

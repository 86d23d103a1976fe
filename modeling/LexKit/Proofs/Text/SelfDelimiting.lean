import LexKit.Text.Escape
import Mathlib.Data.List.Basic

/-!
Texts that show where they end.

A way to write values is self-delimiting if a value can be read off the front of any text that
begins with it, without knowing what follows.  Escaped characters are written that way, so a whole
escaped text can be told from what stands behind its closing quote; so are numbers in front of a
character that is not a digit.
-/

namespace LexKit

variable {α : Type}

/-- The written value and what follows it can both be told from the text. -/
def SelfDelimiting (write : α → Text) : Prop :=
  ∀ ⦃left right : α⦄ ⦃rest other : Text⦄,
    write left ++ rest = write right ++ other → left = right ∧ rest = other

/-- No value can be read off the front of a text. -/
def Stops (write : α → Text) (text : Text) : Prop :=
  ∀ value rest, text ≠ write value ++ rest

/-- No value can be read off a text that begins with another character than all values. -/
theorem stops_of_head {write : α → Text} {first c : Char}
    (heads : ∀ value, ∃ rest, write value = first :: rest) (different : c ≠ first) (text : Text) :
    Stops write (c :: text) := by
  intro value rest begins
  obtain ⟨behind, opened⟩ := heads value
  rw [opened] at begins
  exact different (List.cons.inj begins).1

/-- The first part stands alone and each later one behind a separator. -/
theorem Text.join_cons (separator first : Text) (later : List Text) :
    Text.join separator (first :: later) = first ++ later.flatMap (separator ++ ·) := by
  induction later generalizing first with
  | nil => simp [Text.join]
  | cons second later inductionHypothesis =>
      rw [Text.join, List.intercalate_cons_cons, ← Text.join, inductionHypothesis,
        List.flatMap_cons]
      simp only [List.append_assoc]

namespace SelfDelimiting

variable {write : α → Text}

/-- Values one after the other can be told apart, up to where no further value stands. -/
theorem flatMap_append (delimiting : SelfDelimiting write) {left right : List α}
    {rest other : Text} (stops : Stops write rest) (otherStops : Stops write other)
    (same : left.flatMap write ++ rest = right.flatMap write ++ other) :
    left = right ∧ rest = other := by
  induction left generalizing right with
  | nil =>
      cases right with
      | nil => exact ⟨rfl, same⟩
      | cons value right =>
          rw [List.flatMap_cons, List.append_assoc] at same
          exact absurd same (stops value _)
  | cons value left inductionHypothesis =>
      cases right with
      | nil =>
          rw [List.flatMap_cons, List.append_assoc] at same
          exact absurd same.symm (otherStops value _)
      | cons second right =>
          simp only [List.flatMap_cons, List.append_assoc] at same
          obtain ⟨rfl, sameBehind⟩ := delimiting same
          obtain ⟨rfl, sameRest⟩ := inductionHypothesis sameBehind
          exact ⟨rfl, sameRest⟩

theorem flatMap_injective (delimiting : SelfDelimiting write)
    (nonempty : ∀ value, write value ≠ []) :
    Function.Injective fun values : List α => values.flatMap write := by
  have stops : Stops write [] := by
    intro value rest empty
    exact nonempty value (List.append_eq_nil_iff.mp empty.symm).1
  intro left right same
  exact (delimiting.flatMap_append stops stops (congrArg (· ++ []) same)).1

/-- Values between quotes can be told from what follows them if no value begins with a quote. -/
theorem quoted (delimiting : SelfDelimiting write) {quote : Char}
    (stops : ∀ rest, Stops write (quote :: rest)) :
    SelfDelimiting fun values : List α => [quote] ++ values.flatMap write ++ [quote] := by
  intro left right rest other same
  simp only [List.append_assoc, List.cons_append, List.nil_append, List.cons.injEq,
    true_and] at same
  obtain ⟨sameValues, sameBehind⟩ := delimiting.flatMap_append (stops rest) (stops other) same
  exact ⟨sameValues, (List.cons.inj sameBehind).2⟩

/-- What a reader takes off the front of every text that begins with it is self-delimiting. -/
theorem of_read {read : Text → Option (α × Text)}
    (reads : ∀ value rest, read (write value ++ rest) = some (value, rest)) :
    SelfDelimiting write := by
  intro left right rest other same
  have readAlike := congrArg read same
  rw [reads, reads] at readAlike
  exact Prod.mk.inj (Option.some.inj readAlike)

/-- Values with a separator between neighbours can be told from the text, up to a closing text that
is neither a separator nor a value. -/
theorem join_inj (delimiting : SelfDelimiting write) {separator closing : Text}
    (stops : Stops write closing) (apart : ¬separator <+: closing) {left right : List α}
    (same : Text.join separator (left.map write) ++ closing =
      Text.join separator (right.map write) ++ closing) : left = right := by
  cases left with
  | nil =>
      cases right with
      | nil => rfl
      | cons value right =>
          rw [List.map_cons, Text.join_cons, List.append_assoc] at same
          exact absurd same (stops value _)
  | cons value left =>
      cases right with
      | nil =>
          rw [List.map_cons, Text.join_cons, List.append_assoc] at same
          exact absurd same.symm (stops value _)
      | cons second right =>
          -- Behind the first value each one comes with the separator in front of it.
          simp only [List.map_cons, Text.join_cons, List.append_assoc, List.flatMap_map] at same
          obtain ⟨rfl, sameLater⟩ := delimiting same
          have separated : SelfDelimiting fun value => separator ++ write value := by
            intro left right rest other same
            rw [List.append_assoc, List.append_assoc] at same
            exact delimiting (List.append_cancel_left same)
          have ends : Stops (fun value => separator ++ write value) closing := by
            intro value rest begins
            rw [List.append_assoc] at begins
            exact apart ⟨_, begins.symm⟩
          rw [(separated.flatMap_append ends ends sameLater).1]

end SelfDelimiting

/-- The first of several equal delimiters parts a text. -/
theorem append_delimiter_inj {delimiter : Char} {left right rest other : Text}
    (leftFree : delimiter ∉ left) (rightFree : delimiter ∉ right)
    (same : left ++ delimiter :: rest = right ++ delimiter :: other) :
    left = right ∧ rest = other := by
  induction left generalizing right with
  | nil =>
      cases right with
      | nil => exact ⟨rfl, (List.cons.inj same).2⟩
      | cons c right =>
          obtain ⟨rfl, _⟩ := List.cons.inj same
          exact absurd List.mem_cons_self rightFree
  | cons c left inductionHypothesis =>
      cases right with
      | nil =>
          obtain ⟨rfl, _⟩ := List.cons.inj same
          exact absurd List.mem_cons_self leftFree
      | cons d right =>
          obtain ⟨rfl, sameBehind⟩ := List.cons.inj same
          obtain ⟨rfl, sameRest⟩ := inductionHypothesis
            (fun member => leftFree (List.mem_cons_of_mem c member))
            (fun member => rightFree (List.mem_cons_of_mem c member)) sameBehind
          exact ⟨rfl, sameRest⟩

/-- Lines that hold no newline of their own can be told apart. -/
theorem selfDelimiting_line {write : α → Text} (injective : Function.Injective write)
    (oneLine : ∀ value, '\n' ∉ write value) :
    SelfDelimiting fun value => Text.line (write value) := by
  intro left right rest other same
  simp only [Text.line, List.append_assoc, List.singleton_append] at same
  obtain ⟨sameLine, sameRest⟩ := append_delimiter_inj (oneLine left) (oneLine right) same
  exact ⟨injective sameLine, sameRest⟩

/-! ### Numbers -/

namespace Text

variable {base : Nat}

theorem digitChar_inj {m n : Nat} (small : m < 16) (otherSmall : n < 16)
    (same : Nat.digitChar m = Nat.digitChar n) : m = n := by
  have table : ∀ m < 16, ∀ n < 16, Nat.digitChar m = Nat.digitChar n → m = n := by decide
  exact table m small n otherSmall same

theorem exists_digitChar {n : Nat} {c : Char} (large : 1 < base)
    (member : c ∈ Nat.toDigits base n) :
    ∃ digit < base, c = Nat.digitChar digit := by
  induction n using Nat.strongRecOn with
  | ind n inductionHypothesis =>
      rw [Nat.toDigits_eq_if large] at member
      split at member
      next small => exact ⟨n, small, List.mem_singleton.mp member⟩
      next notSmall =>
        rcases List.mem_append.mp member with leading | last
        · have smaller : n / base < n := Nat.div_lt_self (by omega) large
          exact inductionHypothesis _ smaller leading
        · exact ⟨n % base, Nat.mod_lt n (by omega), List.mem_singleton.mp last⟩

theorem toDigits_injective (large : 1 < base) (bounded : base ≤ 16) :
    Function.Injective (Nat.toDigits base) := by
  intro m
  induction m using Nat.strongRecOn with
  | ind m inductionHypothesis =>
      intro n same
      rw [Nat.toDigits_eq_if (n := m) large, Nat.toDigits_eq_if (n := n) large] at same
      have nonempty (n : Nat) : Nat.toDigits base n ≠ [] := Nat.toDigits_ne_nil
      split_ifs at same with small otherSmall otherSmall
      · exact digitChar_inj (by omega) (by omega) (List.cons.inj same).1
      · simp [List.singleton_eq_append_iff, nonempty] at same
      · simp [List.append_eq_singleton_iff, nonempty] at same
      · obtain ⟨leading, last⟩ := List.append_inj' same rfl
        have smaller : m / base < m := Nat.div_lt_self (by omega) large
        have sameQuotient : m / base = n / base := inductionHypothesis _ smaller leading
        have sameRemainder : m % base = n % base :=
          digitChar_inj (Nat.lt_of_lt_of_le (Nat.mod_lt m (by omega)) bounded)
            (Nat.lt_of_lt_of_le (Nat.mod_lt n (by omega)) bounded) (List.cons.inj last).1
        rw [← Nat.div_add_mod m base, ← Nat.div_add_mod n base, sameQuotient, sameRemainder]

theorem decimal_injective : Function.Injective decimal :=
  toDigits_injective (by decide) (by decide)

theorem isDigit_of_mem_decimal {n : Nat} {c : Char} (member : c ∈ decimal n) : c.isDigit :=
  Nat.isDigit_of_mem_toDigits (by decide) (by decide) member

theorem hexadecimal_injective : Function.Injective hexadecimal :=
  toDigits_injective (by decide) (by decide)

theorem isAlphanum_of_mem_hexadecimal {n : Nat} {c : Char} (member : c ∈ hexadecimal n) :
    c.isAlphanum := by
  obtain ⟨digit, bounded, rfl⟩ := exists_digitChar (by decide) member
  have table : ∀ digit < 16, (Nat.digitChar digit).isAlphanum := by decide
  exact table digit bounded

end Text

/-! ### Escaped characters -/

/-- The characters with a letter of their own, which stands for them behind a backslash. -/
def letterEscapes : List (Char × Char) :=
  [('\x00', '0'), ('\t', 't'), ('\r', 'r'), ('\n', 'n'), ('\\', '\\'), ('"', '"'),
    ('\x27', '\x27')]

/-- The ways to show a character, whatever the style: as it is, by its letter, or by its code
point. -/
inductive Shows (c : Char) : Text → Prop where
  | plain (backslash : c ≠ '\\') (quote : c ≠ '"') (newline : c ≠ '\n') : Shows c [c]
  | letter {letter : Char} (escapes : (c, letter) ∈ letterEscapes) : Shows c ['\\', letter]
  | codePoint : Shows c (escapeCodePoint c)

theorem EscapeStyle.shows_render (style : EscapeStyle) (c : Char) : Shows c (style.render c) := by
  unfold render
  refine iteInduction (fun zero => .letter (by rw [zero]; decide)) fun _ => ?_
  refine iteInduction (fun tab => .letter (by rw [tab]; decide)) fun _ => ?_
  refine iteInduction (fun carriage => .letter (by rw [carriage]; decide)) fun _ => ?_
  refine iteInduction (fun newline => .letter (by rw [newline]; decide)) fun newline => ?_
  refine iteInduction (fun backslash => .letter (by rw [backslash]; decide)) fun backslash => ?_
  refine iteInduction (fun quote => .letter (by rw [quote]; decide)) fun quote => ?_
  refine iteInduction (fun apostrophe => .letter ?_) fun _ => ?_
  · simp only [Bool.and_eq_true, decide_eq_true_eq] at apostrophe
    rw [apostrophe.1]
    decide
  refine iteInduction (fun _ => .codePoint) fun _ => ?_
  exact iteInduction (fun _ => .plain backslash quote newline) fun _ => .codePoint

namespace Shows

variable {c d : Char} {shown otherShown rest other : Text}

theorem letter_ne {letter : Char} (escapes : (c, letter) ∈ letterEscapes) :
    letter ≠ 'u' ∧ letter ≠ '\n' := by
  have table : ∀ entry ∈ letterEscapes, entry.2 ≠ 'u' ∧ entry.2 ≠ '\n' := by decide
  exact table (c, letter) escapes

theorem eq_of_letter {letter : Char} (escapes : (c, letter) ∈ letterEscapes)
    (otherEscapes : (d, letter) ∈ letterEscapes) : c = d := by
  have table : ∀ entry ∈ letterEscapes, ∀ other ∈ letterEscapes,
      entry.2 = other.2 → entry.1 = other.1 := by decide
  exact table (c, letter) escapes (d, letter) otherEscapes rfl

theorem codePoint_inj (same : escapeCodePoint c ++ rest = escapeCodePoint d ++ other) :
    c = d ∧ rest = other := by
  have closing (c : Char) : '\x7d' ∉ Text.hexadecimal c.toNat := by
    intro member
    simpa using Text.isAlphanum_of_mem_hexadecimal member
  simp only [escapeCodePoint, List.append_assoc, List.cons_append, List.nil_append,
    List.cons.injEq, true_and] at same
  obtain ⟨sameDigits, sameRest⟩ := append_delimiter_inj (closing c) (closing d) same
  exact ⟨Char.toNat_inj.mp (Text.hexadecimal_injective sameDigits), sameRest⟩

/-- Whatever the styles, what is shown can be told from what follows it. -/
theorem inj (shows : Shows c shown) (otherShows : Shows d otherShown)
    (same : shown ++ rest = otherShown ++ other) : c = d ∧ rest = other := by
  cases shows with
  | plain backslash =>
      cases otherShows with
      | plain => exact List.cons.inj same
      | letter => exact absurd (List.cons.inj same).1 backslash
      | codePoint => exact absurd (List.cons.inj same).1 backslash
  | letter escapes =>
      cases otherShows with
      | plain backslash => exact absurd (List.cons.inj same).1.symm backslash
      | letter otherEscapes =>
          obtain ⟨rfl, sameRest⟩ := List.cons.inj (List.cons.inj same).2
          exact ⟨eq_of_letter escapes otherEscapes, sameRest⟩
      | codePoint =>
          exact absurd (List.cons.inj (List.cons.inj same).2).1 (letter_ne escapes).1
  | codePoint =>
      cases otherShows with
      | plain backslash => exact absurd (List.cons.inj same).1.symm backslash
      | letter escapes =>
          exact absurd (List.cons.inj (List.cons.inj same).2).1.symm (letter_ne escapes).1
      | codePoint => exact codePoint_inj same

theorem ne_quote (shows : Shows c shown) : '"' :: other ≠ shown ++ rest := by
  intro same
  cases shows with
  | plain _ quote => exact quote (List.cons.inj same).1.symm
  | letter => simp at same
  | codePoint => simp [escapeCodePoint] at same

theorem newline_notMem (shows : Shows c shown) : '\n' ∉ shown := by
  cases shows with
  | plain _ _ newline => simpa using newline.symm
  | letter escapes => simpa using (letter_ne escapes).2.symm
  | codePoint =>
      have noDigit : '\n' ∉ Text.hexadecimal c.toNat := by
        intro member
        simpa using Text.isAlphanum_of_mem_hexadecimal member
      simpa [escapeCodePoint] using noDigit

end Shows

namespace EscapeStyle

theorem selfDelimiting (style : EscapeStyle) : SelfDelimiting style.render :=
  fun _ _ _ _ same => (style.shows_render _).inj (style.shows_render _) same

theorem stops_quote (style : EscapeStyle) (rest : Text) : Stops style.render ('"' :: rest) :=
  fun value _ => (style.shows_render value).ne_quote

theorem newline_notMem_flatMap (style : EscapeStyle) (text : Text) :
    '\n' ∉ text.flatMap style.render := by
  intro member
  obtain ⟨c, _, shown⟩ := List.mem_flatMap.mp member
  exact (style.shows_render c).newline_notMem shown

end EscapeStyle

/-! ### Escaped texts -/

theorem selfDelimiting_doubleQuoted : SelfDelimiting doubleQuoted :=
  EscapeStyle.doubleQuoted.selfDelimiting.quoted EscapeStyle.doubleQuoted.stops_quote

theorem newline_notMem_escapeText (text : Text) : '\n' ∉ escapeText text := by
  cases text with
  | nil => simp [escapeText]
  | cons c text =>
      rw [escapeText, List.mem_append, not_or]
      exact ⟨(EscapeStyle.strict.shows_render c).newline_notMem,
        EscapeStyle.inner.newline_notMem_flatMap text⟩

/-- The closing quote of an escaped text is the first quote that is not part of an escape, although
the first character is escaped in a style of its own. -/
theorem escapeText_quote_inj {left right rest other : Text}
    (same : escapeText left ++ '"' :: rest = escapeText right ++ '"' :: other) :
    left = right ∧ rest = other := by
  cases left with
  | nil =>
      cases right with
      | nil => exact ⟨rfl, (List.cons.inj same).2⟩
      | cons c right =>
          rw [escapeText, escapeText, List.append_assoc] at same
          exact absurd same (EscapeStyle.strict.shows_render c).ne_quote
  | cons c left =>
      cases right with
      | nil =>
          rw [escapeText, escapeText, List.append_assoc] at same
          exact absurd same.symm (EscapeStyle.strict.shows_render c).ne_quote
      | cons d right =>
          rw [escapeText, escapeText, List.append_assoc, List.append_assoc] at same
          obtain ⟨rfl, sameBehind⟩ := EscapeStyle.strict.selfDelimiting same
          obtain ⟨rfl, sameRest⟩ := EscapeStyle.inner.selfDelimiting.flatMap_append
            (EscapeStyle.inner.stops_quote rest) (EscapeStyle.inner.stops_quote other) sameBehind
          exact ⟨rfl, (List.cons.inj sameRest).2⟩

end LexKit

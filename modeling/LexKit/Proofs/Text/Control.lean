import LexKit.Proofs.Text.SelfDelimiting

/-!
Texts that a terminal shows and does not obey.

A control character makes a terminal do something.  Escaped characters hold none, in any style, and
neither do numbers, so a text that is put together from them and from plain words is shown as it is.
-/

namespace LexKit

/-- A control character of ASCII or of the block behind it. -/
def IsControl (c : Char) : Prop :=
  c.toNat < 0x20 ∨ 0x7F ≤ c.toNat ∧ c.toNat ≤ 0x9F
  deriving Decidable

/-- A text without control characters. -/
def ControlFree (text : Text) : Prop :=
  ∀ c ∈ text, ¬IsControl c

-- Look at the characters of the text and not, as there are finitely many, at all characters.
instance (text : Text) : Decidable (ControlFree text) :=
  List.decidableBAll (fun c => ¬IsControl c) text

theorem not_isControl_of_isPrintable {c : Char} (printable : isPrintable c = true) :
    ¬IsControl c := by
  rintro (low | ⟨first, last⟩)
  · simp [isPrintable, low] at printable
  · have below : ¬c.toNat < 0x7F := by omega
    have inBlock : c.toNat ≤ 0xA0 := by omega
    simp [isPrintable, below, inBlock] at printable

namespace ControlFree

variable {left right : Text}

theorem append (leftFree : ControlFree left) (rightFree : ControlFree right) :
    ControlFree (left ++ right) :=
  List.forall_mem_append.mpr ⟨leftFree, rightFree⟩

theorem flatMap {α : Type} {values : List α} {write : α → Text}
    (free : ∀ value ∈ values, ControlFree (write value)) : ControlFree (values.flatMap write) := by
  intro c member
  obtain ⟨value, present, written⟩ := List.mem_flatMap.mp member
  exact free value present c written

theorem toDigits {base n : Nat} (large : 1 < base) (bounded : base ≤ 16) :
    ControlFree (Nat.toDigits base n) := by
  intro c member
  obtain ⟨digit, small, rfl⟩ := Text.exists_digitChar large member
  have table : ∀ digit < 16, ¬IsControl (Nat.digitChar digit) := by decide
  exact table digit (Nat.lt_of_lt_of_le small bounded)

theorem decimal (n : Nat) : ControlFree (Text.decimal n) :=
  toDigits (by decide) (by decide)

theorem newline_notMem (free : ControlFree left) : '\n' ∉ left :=
  fun member => free '\n' member (by decide)

theorem escape_notMem (free : ControlFree left) : '\x1b' ∉ left :=
  fun member => free '\x1b' member (by decide)

end ControlFree

/-! ### Escaped texts -/

theorem controlFree_escapeCodePoint (c : Char) : ControlFree (escapeCodePoint c) := by
  have digits : ControlFree (Text.hexadecimal c.toNat) := .toDigits (by decide) (by decide)
  exact .append (.append (by decide) digits) (by decide)

/-- A character is shown by letters and marks, by its code point, or as it is if it is printable. -/
theorem EscapeStyle.controlFree_render (style : EscapeStyle) (c : Char) :
    ControlFree (style.render c) := by
  unfold render
  -- Seven characters have a letter or mark of their own.
  iterate 7 refine iteInduction (fun _ => by decide) fun _ => ?_
  refine iteInduction (fun _ => controlFree_escapeCodePoint c) fun _ => ?_
  refine iteInduction (fun printable => ?_) fun _ => controlFree_escapeCodePoint c
  intro d member
  rw [List.mem_singleton.mp member]
  exact not_isControl_of_isPrintable printable

theorem controlFree_doubleQuoted (text : Text) : ControlFree (doubleQuoted text) := by
  have inner : ControlFree (text.flatMap EscapeStyle.doubleQuoted.render) :=
    .flatMap fun c _ => EscapeStyle.doubleQuoted.controlFree_render c
  exact .append (.append (by decide) inner) (by decide)

/-! ### Lines -/

/-- Lines that hold no newline of their own are what stands between the newlines. -/
theorem splitOn_lines {lines : List Text} (oneLine : ∀ line ∈ lines, '\n' ∉ line) :
    (lines.flatMap Text.line).splitOn '\n' = lines ++ [[]] := by
  induction lines with
  | nil => rfl
  | cons line lines inductionHypothesis =>
      simp only [List.forall_mem_cons] at oneLine
      rw [List.flatMap_cons, Text.line, List.append_assoc, List.singleton_append, List.splitOn,
        List.splitOnP_append_cons _ _ (by simp), ← List.splitOn, ← List.splitOn,
        List.splitOn_eq_singleton oneLine.1, inductionHypothesis oneLine.2]
      rfl

end LexKit

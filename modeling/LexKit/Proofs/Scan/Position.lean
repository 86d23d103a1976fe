import LexKit.Scan.Position
import Mathlib.Data.List.DropRight

/-!
Positions in closed form: the line counts line breaks, and the column counts the characters behind
the last one.  The column falls back at a line break, but then the line goes up, so positions rise
with every character.
-/

namespace LexKit

namespace SourcePos

/-- How many characters stand behind the last line break of a text, or in all of it without one. -/
def lastColumn (text : Text) : Nat :=
  (text.rtakeWhile (· != '\n')).length

theorem lastColumn_append_break (text : Text) : lastColumn (text ++ ['\n']) = 0 := by
  simp [lastColumn]

theorem lastColumn_append {c : Char} (inLine : c ≠ '\n') (text : Text) :
    lastColumn (text ++ [c]) = lastColumn text + 1 := by
  simp [lastColumn, inLine]

theorem line_visitAll (pos : SourcePos) (text : Text) :
    (pos.visitAll text).line = pos.line + text.count '\n' := by
  induction text generalizing pos with
  | nil => simp
  | cons c rest inductionHypothesis =>
      rw [visitAll_cons, inductionHypothesis]
      by_cases isBreak : c = '\n'
      · simp only [visit, isBreak, ↓reduceIte, List.count_cons_self]
        omega
      · simp [visit, isBreak]

/-- Without a line break the column goes on from where it was. -/
theorem column_visitAll (pos : SourcePos) (text : Text) :
    (pos.visitAll text).column =
      if '\n' ∈ text then lastColumn text else pos.column + text.length := by
  -- The last character decides, so the induction takes characters off the end.
  induction text using List.reverseRecOn with
  | nil => simp
  | append_singleton text c inductionHypothesis =>
      rw [visitAll_append, visitAll_cons, visitAll_nil]
      by_cases isBreak : c = '\n'
      · subst isBreak
        simp [visit, lastColumn_append_break]
      · have sameLine : '\n' ∈ text ++ [c] ↔ '\n' ∈ text := by
          simp [Ne.symm isBreak]
        simp only [visit, isBreak, ↓reduceIte, inductionHypothesis, sameLine,
          lastColumn_append isBreak, List.length_append, List.length_singleton]
        split <;> omega

theorem lastColumn_of_not_mem {text : Text} (oneLine : '\n' ∉ text) :
    lastColumn text = text.length := by
  have all : text.rtakeWhile (· != '\n') = text := by
    rw [List.rtakeWhile_eq_self_iff]
    intro c member
    rw [bne_iff_ne]
    rintro rfl
    exact oneLine member
  rw [lastColumn, all]

theorem visitAll_origin (text : Text) :
    origin.visitAll text = ⟨1 + text.count '\n', lastColumn text⟩ := by
  have column : (origin.visitAll text).column = lastColumn text := by
    rw [column_visitAll]
    split
    next => rfl
    next oneLine => rw [lastColumn_of_not_mem oneLine, origin, Nat.zero_add]
  have line : (origin.visitAll text).line = 1 + text.count '\n' := line_visitAll origin text
  rw [← line, ← column]

/-! ### Order -/

variable {first second third : SourcePos} {text : Text} {i j : Nat}

theorem order_eq_lt_iff :
    first.order second = .lt ↔
      first.line < second.line ∨ first.line = second.line ∧ first.column < second.column := by
  simp [order, Ordering.then_eq_lt, Nat.compare_eq_lt]

theorem order_trans (before : first.order second = .lt) (between : second.order third = .lt) :
    first.order third = .lt := by
  rw [order_eq_lt_iff] at *
  omega

theorem order_self_ne_lt (pos : SourcePos) : pos.order pos ≠ .lt := by
  simp [order_eq_lt_iff]

theorem order_visit (pos : SourcePos) (c : Char) : pos.order (pos.visit c) = .lt := by
  rw [order_eq_lt_iff, visit]
  split
  next => exact .inl (Nat.lt_succ_self pos.line)
  next => exact .inr ⟨rfl, Nat.lt_succ_self pos.column⟩

theorem order_visitAll (pos : SourcePos) (nonempty : text ≠ []) :
    pos.order (pos.visitAll text) = .lt := by
  induction text using List.reverseRecOn with
  | nil => exact absurd rfl nonempty
  | append_singleton text c inductionHypothesis =>
      rw [visitAll_append, visitAll_cons, visitAll_nil]
      by_cases empty : text = []
      · rw [empty]
        exact order_visit pos c
      · exact order_trans (inductionHypothesis empty) (order_visit _ c)

theorem order_visitAll_take (pos : SourcePos) (before : i < j) (inside : j ≤ text.length) :
    (pos.visitAll (text.take i)).order (pos.visitAll (text.take j)) = .lt := by
  have passed : text.take j = text.take i ++ (text.drop i).take (j - i) := by
    rw [← List.take_add, Nat.add_sub_cancel' (Nat.le_of_lt before)]
  rw [passed, visitAll_append]
  apply order_visitAll
  apply List.ne_nil_of_length_pos
  rw [List.length_take, List.length_drop]
  omega

theorem visitAll_take_ne (pos : SourcePos) (before : i < j) (inside : j ≤ text.length) :
    pos.visitAll (text.take i) ≠ pos.visitAll (text.take j) := by
  intro same
  have rises := pos.order_visitAll_take before inside
  rw [same] at rises
  exact order_self_ne_lt _ rises

theorem visitAll_take_inj (pos : SourcePos) (bounded : i ≤ text.length)
    (otherBounded : j ≤ text.length) :
    pos.visitAll (text.take i) = pos.visitAll (text.take j) ↔ i = j := by
  constructor
  · intro same
    rcases Nat.lt_trichotomy i j with before | equal | behind
    · exact absurd same (pos.visitAll_take_ne before otherBounded)
    · exact equal
    · exact absurd same.symm (pos.visitAll_take_ne behind bounded)
  · intro equal
    rw [equal]

end SourcePos

end LexKit

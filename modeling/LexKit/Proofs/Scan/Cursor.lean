import LexKit.Scan.Run

/-!
Cursors in closed form.

A cursor keeps what is left of a text together with three counts of what it has passed.  All four
are determined by the number of characters passed, so a cursor that belongs to a text is the cursor
`after` that many characters of it.
-/

namespace LexKit

theorem Text.byteSize_append (first second : Text) :
    Text.byteSize (first ++ second) = first.byteSize + second.byteSize := by
  induction first with
  | nil => simp [byteSize]
  | cons c rest inductionHypothesis =>
      simp only [List.cons_append, byteSize, inductionHypothesis]
      omega

namespace Cursor

/-- The cursor of a text behind its first `count` characters. -/
def after (text : Text) (count : Nat) : Cursor :=
  ⟨text.drop count, count, Text.byteSize (text.take count),
    SourcePos.origin.visitAll (text.take count)⟩

@[simp]
theorem index_after (text : Text) (count : Nat) : (after text count).index = count := rfl

@[simp]
theorem pos_after (text : Text) (count : Nat) :
    (after text count).pos = SourcePos.origin.visitAll (text.take count) := rfl

@[simp]
theorem peek?_after (text : Text) (count : Nat) : (after text count).peek? = text[count]? := by
  simp [after, peek?, List.head?_drop]

theorem atEnd_after_iff (text : Text) (count : Nat) :
    (after text count).atEnd = true ↔ text.length ≤ count := by
  simp [after, atEnd]

theorem step_after {text : Text} {count : Nat} (inside : count < text.length) :
    (after text count).step = after text (count + 1) := by
  have left : text.drop count = text[count] :: text.drop (count + 1) :=
    List.drop_eq_getElem_cons inside
  have passed : text.take (count + 1) = text.take count ++ [text[count]] := by simp
  simp only [step, after, left, passed, Text.byteSize_append, Text.byteSize, Nat.add_zero,
    SourcePos.visitAll_append, SourcePos.visitAll_cons, SourcePos.visitAll_nil]

theorem atEnd_alike {left right : Cursor} (sameInput : left.peek? = right.peek?) :
    left.atEnd = right.atEnd := by
  rw [Bool.eq_iff_iff, ← peek?_eq_none_iff, ← peek?_eq_none_iff, sameInput]

/-- A cursor that has come to its place by passing characters of the text. -/
def Within (text : Text) (cursor : Cursor) : Prop :=
  cursor.index ≤ text.length ∧ cursor = after text cursor.index

namespace Within

variable {text : Text} {cursor : Cursor}

theorem of_after {count : Nat} (bounded : count ≤ text.length) : Within text (after text count) :=
  ⟨bounded, rfl⟩

theorem ofText (text : Text) : Within text (Cursor.ofText text) :=
  of_after (Nat.zero_le _)

theorem peek? (within : Within text cursor) : cursor.peek? = text[cursor.index]? := by
  rw [within.2]
  simp

theorem pos (within : Within text cursor) :
    cursor.pos = SourcePos.origin.visitAll (text.take cursor.index) := by
  rw [within.2]
  simp

theorem atEnd_iff (within : Within text cursor) :
    cursor.atEnd = true ↔ cursor.index = text.length := by
  have bounded := within.1
  rw [within.2, atEnd_after_iff, index_after]
  omega

theorem index_lt (within : Within text cursor) (before : cursor.atEnd = false) :
    cursor.index < text.length := by
  apply Nat.lt_of_le_of_ne within.1
  intro last
  simp [within.atEnd_iff.mpr last] at before

theorem step_eq (within : Within text cursor) (before : cursor.atEnd = false) :
    cursor.step = after text (cursor.index + 1) := by
  have inside := within.index_lt before
  rw [within.2]
  exact step_after inside

theorem step (within : Within text cursor) : Within text cursor.step := by
  cases ended : cursor.atEnd with
  | true => rwa [step_of_atEnd ended]
  | false =>
      rw [within.step_eq ended]
      exact of_after (within.index_lt ended)

theorem eq_of_index_eq {other : Cursor} (within : Within text cursor)
    (otherWithin : Within text other) (sameIndex : cursor.index = other.index) :
    cursor = other := by
  rw [within.2, otherWithin.2, sameIndex]

end Within

end Cursor

namespace Transition

variable {κ : Type}

/-- Whether a transition, taken at a cursor, passes a character of the text. -/
def passes (transition : Transition κ) (cursor : Cursor) : Bool :=
  !transition.rereads && !cursor.atEnd

/-- Whether a transition, taken at a cursor, consumes the end of the text, which ends the run. -/
def consumesEnd (transition : Transition κ) (cursor : Cursor) : Bool :=
  cursor.atEnd && !transition.rereads

theorem consumesEnd_alike {transition : Transition κ} {left right : Cursor}
    (sameInput : left.peek? = right.peek?) :
    transition.consumesEnd left = transition.consumesEnd right := by
  rw [consumesEnd, consumesEnd, Cursor.atEnd_alike sameInput]

theorem move_of_passes {transition : Transition κ} {text : Text} {cursor : Cursor}
    (within : Cursor.Within text cursor) (passed : transition.passes cursor = true) :
    transition.move cursor = .after text (cursor.index + 1) := by
  simp only [passes, Bool.and_eq_true, Bool.not_eq_true'] at passed
  simp only [move, passed.1, Bool.false_eq_true, ↓reduceIte]
  exact within.step_eq passed.2

theorem move_of_not_passes {transition : Transition κ} {cursor : Cursor}
    (kept : transition.passes cursor = false) : transition.move cursor = cursor := by
  cases reread : transition.rereads with
  | true => simp [move, reread]
  | false =>
      have ended : cursor.atEnd = true := by simpa [passes, reread] using kept
      simp [move, reread, Cursor.step_of_atEnd ended]

theorem within_move {transition : Transition κ} {text : Text} {cursor : Cursor}
    (within : Cursor.Within text cursor) : Cursor.Within text (transition.move cursor) := by
  cases reread : transition.rereads with
  | true => simpa [move, reread] using within
  | false => simpa [move, reread] using within.step

end Transition

end LexKit

import LexKit.Proofs.Scan.Cursor
import LexKit.Proofs.Scan.Position

/-!
Where a cursor stands.

A text is stored as bytes, from one to four for each character.  A cursor counts what it has passed
in characters, in bytes, and in lines and columns.  The counts agree: the bytes at the byte offset
are those of the character that the cursor shows, all bytes have been passed exactly when no
character is left, and no two places of a text have the same position.
-/

namespace LexKit

/-! ### Bytes -/

namespace Text

theorem size_utf8Encode (text : Text) : text.utf8Encode.size = text.byteSize := by
  induction text with
  | nil => rfl
  | cons c rest inductionHypothesis =>
      rw [List.utf8Encode_cons, ByteArray.size_append, inductionHypothesis,
        List.utf8Encode_singleton, List.size_toByteArray, String.length_utf8EncodeChar, byteSize]

theorem byteSize_eq_zero_iff {text : Text} : text.byteSize = 0 ↔ text = [] := by
  cases text with
  | nil => simp [byteSize]
  | cons c rest => simp [byteSize, Nat.ne_of_gt c.utf8Size_pos]

theorem byteSize_take_eq_iff (text : Text) (count : Nat) :
    Text.byteSize (text.take count) = text.byteSize ↔ text.length ≤ count := by
  have parts : text.byteSize =
      Text.byteSize (text.take count) + Text.byteSize (text.drop count) := by
    rw [← byteSize_append, List.take_append_drop]
  rw [parts, ← List.drop_eq_nil_iff, ← byteSize_eq_zero_iff]
  omega

/-- The bytes behind the first characters are those of the characters that are left. -/
theorem extract_utf8Encode (text : Text) (count : Nat) :
    text.utf8Encode.extract (Text.byteSize (text.take count)) text.utf8Encode.size =
      (text.drop count).utf8Encode := by
  have parts : text.utf8Encode = (text.take count).utf8Encode ++ (text.drop count).utf8Encode := by
    rw [← List.utf8Encode_append, List.take_append_drop]
  rw [parts]
  apply ByteArray.extract_append_eq_right
  · rw [size_utf8Encode]
  · rw [ByteArray.size_append]

theorem utf8DecodeChar?_utf8Encode (text : Text) (count : Nat) :
    text.utf8Encode.utf8DecodeChar? (Text.byteSize (text.take count)) = text[count]? := by
  rw [ByteArray.utf8DecodeChar?_eq_utf8DecodeChar?_extract, extract_utf8Encode, ← List.head?_drop]
  cases text.drop count with
  | nil => rfl
  | cons c rest => exact List.utf8DecodeChar?_utf8Encode_cons

/-- Behind any number of characters a text can be cut. -/
theorem isValid_byteSize (text : Text) (count : Nat) :
    String.Pos.Raw.IsValid (String.ofList text) ⟨Text.byteSize (text.take count)⟩ := by
  rw [String.Pos.Raw.isValid_iff_exists_append]
  refine ⟨String.ofList (text.take count), String.ofList (text.drop count), ?_, ?_⟩
  · rw [← String.ofList_append, List.take_append_drop]
  · rw [← size_utf8Encode, ← String.toByteArray_ofList]
    rfl

end Text

/-! ### Cursors -/

namespace Cursor

variable {text : Text} {passed : Nat} {cursor : Cursor}

theorem advance_of_atEnd (ended : cursor.atEnd = true) (steps : Nat) :
    cursor.advance steps = cursor := by
  induction steps with
  | zero => rfl
  | succ steps inductionHypothesis => rw [advance, step_of_atEnd ended, inductionHypothesis]

theorem advance_after (bounded : passed ≤ text.length) (steps : Nat) :
    (after text passed).advance steps = after text (min (passed + steps) text.length) := by
  -- Each step passes a character, as long as one is left.
  induction steps generalizing passed with
  | zero => rw [advance, Nat.add_zero, Nat.min_eq_left bounded]
  | succ steps inductionHypothesis =>
      rcases Nat.lt_or_eq_of_le bounded with inside | last
      · rw [advance, step_after inside, inductionHypothesis inside, Nat.succ_add_eq_add_succ]
      · rw [advance_of_atEnd ((atEnd_after_iff text passed).mpr (Nat.le_of_eq last.symm)), last,
          Nat.min_eq_right (Nat.le_add_right _ _)]

/-- What a cursor tells about a text of which it has passed the given number of characters.  The
bytes of the text are cut and decoded at the byte offset. -/
structure Tracks (text : Text) (passed : Nat) (cursor : Cursor) : Prop where
  index : cursor.index = passed
  byteOffset : cursor.byteOffset = (text.take passed).utf8Encode.size
  boundary : String.Pos.Raw.IsValid (String.ofList text) ⟨cursor.byteOffset⟩
  behind : text.utf8Encode.extract cursor.byteOffset text.utf8Encode.size =
    (text.drop passed).utf8Encode
  peek? : cursor.peek? = text[passed]?
  decoded : cursor.peek? = text.utf8Encode.utf8DecodeChar? cursor.byteOffset
  atEnd_iff : cursor.atEnd = true ↔ passed = text.length
  atEnd_iff_bytes : cursor.atEnd = true ↔ cursor.byteOffset = text.utf8Encode.size
  atEnd_iff_peek? : cursor.atEnd = true ↔ cursor.peek? = none
  pos : cursor.pos = SourcePos.origin.visitAll (text.take passed)
  /-- At the end there is nothing to pass, however often it is tried. -/
  rests : cursor.atEnd = true → ∀ steps, cursor.advance steps = cursor

theorem tracks_after (bounded : passed ≤ text.length) :
    Tracks text passed (after text passed) where
  index := rfl
  byteOffset := (Text.size_utf8Encode _).symm
  boundary := text.isValid_byteSize passed
  behind := text.extract_utf8Encode passed
  peek? := peek?_after text passed
  decoded := by
    rw [peek?_after]
    exact (text.utf8DecodeChar?_utf8Encode passed).symm
  atEnd_iff := by
    rw [atEnd_after_iff]
    omega
  atEnd_iff_bytes := by
    rw [atEnd_after_iff, Text.size_utf8Encode]
    exact (text.byteSize_take_eq_iff passed).symm
  atEnd_iff_peek? := (peek?_eq_none_iff _).symm
  pos := rfl
  rests := fun ended => advance_of_atEnd ended

theorem advance_ofText (text : Text) (steps : Nat) :
    (ofText text).advance steps = after text (min steps text.length) := by
  have moved := advance_after (Nat.zero_le text.length) steps
  rwa [Nat.zero_add] at moved

end Cursor

/-- However often a cursor is moved on, everything that it tells about its text is right. -/
theorem cursor_tracks_text (text : Text) (steps : Nat) :
    Cursor.Tracks text (min steps text.length) ((Cursor.ofText text).advance steps) := by
  rw [Cursor.advance_ofText]
  exact Cursor.tracks_after (Nat.min_le_right steps text.length)

/-- Behind a text the line has gone up by its line breaks, and the column counts the characters
behind the last of these or, without any, goes on from where it was.  Positions rise strictly along
the text, so that the place in the text and the position determine each other, as they do in every
cursor. -/
theorem positions_rise_along_text (pos : SourcePos) (text : Text) :
    (pos.visitAll text).line = pos.line + text.count '\n' ∧
      (pos.visitAll text).column =
        (if '\n' ∈ text then SourcePos.lastColumn text else pos.column + text.length) ∧
      (∀ i j, i < j → j ≤ text.length →
        (pos.visitAll (text.take i)).order (pos.visitAll (text.take j)) = .lt) ∧
      (∀ i j, i ≤ text.length → j ≤ text.length →
        (pos.visitAll (text.take i) = pos.visitAll (text.take j) ↔ i = j)) ∧
      ∀ steps others,
        (((Cursor.ofText text).advance steps).pos = ((Cursor.ofText text).advance others).pos ↔
          ((Cursor.ofText text).advance steps).index =
            ((Cursor.ofText text).advance others).index) := by
  refine ⟨pos.line_visitAll text, pos.column_visitAll text, ?_, ?_, ?_⟩
  · intro i j before inside
    exact pos.order_visitAll_take before inside
  · intro i j bounded otherBounded
    exact pos.visitAll_take_inj bounded otherBounded
  · intro steps others
    rw [Cursor.advance_ofText, Cursor.advance_ofText]
    exact SourcePos.origin.visitAll_take_inj (Nat.min_le_right _ _) (Nat.min_le_right _ _)

end LexKit

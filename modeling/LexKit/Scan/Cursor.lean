import LexKit.Scan.Position

/-!
A place in a text that is being read from front to back.
-/

namespace LexKit

/-- What is left of a text, and how much of it has been passed in characters, in bytes of UTF-8, and
as a position. -/
structure Cursor where
  rest : Text
  index : Nat := 0
  byteOffset : Nat := 0
  pos : SourcePos := .origin
  deriving DecidableEq

namespace Cursor

def ofText (text : Text) : Cursor := { rest := text }

def atEnd (cursor : Cursor) : Bool :=
  cursor.rest.isEmpty

/-- The character at the cursor, or `none` at the end. -/
def peek? (cursor : Cursor) : Option Char :=
  cursor.rest.head?

/-- Pass one character.  At the end there is nothing to pass. -/
def step (cursor : Cursor) : Cursor :=
  match cursor.rest with
  | [] => cursor
  | c :: rest => ⟨rest, cursor.index + 1, cursor.byteOffset + c.utf8Size, cursor.pos.visit c⟩

theorem peek?_eq_none_iff (cursor : Cursor) : cursor.peek? = none ↔ cursor.atEnd = true := by
  simp [peek?, atEnd]

theorem step_of_atEnd {cursor : Cursor} (ended : cursor.atEnd = true) : cursor.step = cursor := by
  simp only [atEnd, List.isEmpty_iff] at ended
  simp [step, ended]

@[simp]
theorem rest_step (cursor : Cursor) : cursor.step.rest = cursor.rest.tail := by
  cases left : cursor.rest with
  | nil => simp [step, left]
  | cons c rest => simp [step, left]

def advance (cursor : Cursor) : Nat → Cursor
  | 0 => cursor
  | count + 1 => cursor.step.advance count

/-- The cursor itself, and where it is after each of a number of steps. -/
def trace (cursor : Cursor) : Nat → List Cursor
  | 0 => [cursor]
  | count + 1 => cursor :: cursor.step.trace count

end Cursor

end LexKit

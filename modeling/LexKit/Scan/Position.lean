import LexKit.Text.Basic

/-!
Positions that a person can find in a text: lines counted from one, columns from zero.
-/

namespace LexKit

structure SourcePos where
  line : Nat := 1
  column : Nat := 0
  deriving DecidableEq

namespace SourcePos

def origin : SourcePos := {}

/-- The position after passing a character: a line break leads to the front of the next line. -/
def visit (pos : SourcePos) (c : Char) : SourcePos :=
  if c = '\n' then ⟨pos.line + 1, 0⟩ else ⟨pos.line, pos.column + 1⟩

def visitAll (pos : SourcePos) (text : Text) : SourcePos :=
  text.foldl visit pos

@[simp]
theorem visitAll_nil (pos : SourcePos) : pos.visitAll [] = pos := rfl

@[simp]
theorem visitAll_cons (pos : SourcePos) (c : Char) (text : Text) :
    pos.visitAll (c :: text) = (pos.visit c).visitAll text := rfl

@[simp]
theorem visitAll_append (pos : SourcePos) (first second : Text) :
    pos.visitAll (first ++ second) = (pos.visitAll first).visitAll second :=
  List.foldl_append

/-- Positions are ordered by line and then by column. -/
def order (left right : SourcePos) : Ordering :=
  (compare left.line right.line).then (compare left.column right.column)

def render (pos : SourcePos) : Text :=
  "line ".toList ++ Text.decimal pos.line ++ ", column ".toList ++ Text.decimal pos.column

end SourcePos

end LexKit

import LexKit.Text.Basic

/-!
Colors and bold type on a terminal, by the control sequences that switch them on and off.
-/

namespace LexKit

inductive Color where
  | red
  | yellow
  | blue
  deriving DecidableEq

/-- The number of a color in the terminal's palette. -/
def Color.index : Color → Nat
  | red => 1
  | yellow => 3
  | blue => 4

namespace Screen

def control (parameters : Text) : Text :=
  ['\x1b', '['] ++ parameters ++ ['m']

def paint (color : Color) (text : Text) : Text :=
  control ("38;5;".toList ++ Text.decimal color.index) ++ text ++ control ['3', '9']

def bold (text : Text) : Text :=
  control ['1'] ++ text ++ control []

/-- The rule that divides sections of output. -/
def separator : Text :=
  paint .yellow (List.replicate 50 '-')

end Screen

end LexKit

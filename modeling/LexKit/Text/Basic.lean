/-!
Text as a list of characters, and the small pieces from which messages are put together.
-/

namespace LexKit

/-- A text is the list of its characters.  Lengths, columns and offsets count characters. -/
abbrev Text := List Char

namespace Text

def decimal (n : Nat) : Text :=
  Nat.toDigits 10 n

/-- A number in lower case hexadecimal digits, without padding. -/
def hexadecimal (n : Nat) : Text :=
  Nat.toDigits 16 n

/-- Parts of a text with a separator between neighbours. -/
def join (separator : Text) (parts : List Text) : Text :=
  separator.intercalate parts

def line (text : Text) : Text :=
  text ++ ['\n']

def byteSize : Text → Nat
  | [] => 0
  | c :: rest => c.utf8Size + byteSize rest

end Text

end LexKit

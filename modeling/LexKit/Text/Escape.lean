import LexKit.Text.Basic
import LexKit.Text.ExtendingMark
import LexKit.Text.Unprintable

/-!
Escaping of text that is shown to a person.  Every escape starts with a backslash and stands for
one character, and what is shown holds no control character.

Quotes are escaped because the text is shown between quotes.  A combining character is shown by its
code point where it would otherwise attach itself to the quote before it.
-/

namespace LexKit

/-- What is escaped besides the characters that always are. -/
structure EscapeStyle where
  singleQuotes : Bool
  combining : Bool
  deriving DecidableEq

/-- The code point of a character between braces. -/
def escapeCodePoint (c : Char) : Text :=
  ['\\', 'u', '\x7b'] ++ Text.hexadecimal c.toNat ++ ['\x7d']

/-- A character as it is shown in the given style. -/
def EscapeStyle.render (style : EscapeStyle) (c : Char) : Text :=
  if c = '\x00' then ['\\', '0']
  else if c = '\t' then ['\\', 't']
  else if c = '\r' then ['\\', 'r']
  else if c = '\n' then ['\\', 'n']
  else if c = '\\' then ['\\', '\\']
  else if c = '"' then ['\\', '"']
  else if c = '\x27' && style.singleQuotes then ['\\', '\x27']
  else if style.combining && isExtendingMark c then escapeCodePoint c
  else if isPrintable c then [c]
  else escapeCodePoint c

/-- Everything that may need an escape gets one. -/
def EscapeStyle.strict : EscapeStyle := ⟨true, true⟩

/-- Inside a text a combining character has a character of its own to attach to. -/
def EscapeStyle.inner : EscapeStyle := ⟨true, false⟩

/-- Between double quotes a single quote needs no escape. -/
def EscapeStyle.doubleQuoted : EscapeStyle := ⟨false, true⟩

/-- A character that is shown by itself. -/
def escapeChar (c : Char) : Text :=
  EscapeStyle.strict.render c

/-- A text to be shown between quotes: only its first character stands next to one. -/
def escapeText : Text → Text
  | [] => []
  | c :: rest => escapeChar c ++ rest.flatMap EscapeStyle.inner.render

/-- A text between double quotes, each character shown by itself. -/
def doubleQuoted (text : Text) : Text :=
  ['"'] ++ text.flatMap EscapeStyle.doubleQuoted.render ++ ['"']

/-- An escaped text between single quotes. -/
def singleQuoted (text : Text) : Text :=
  ['\x27'] ++ escapeText text ++ ['\x27']

end LexKit

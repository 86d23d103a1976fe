import LexKit.Token.Queue

/-!
Tokens written as a JSON document: an array of objects with the members `type` and `value`.

In a string, quotes, backslashes and control characters are escaped and everything else stands as it
is.  The compact layout has no white space; the pretty layout has one item on each line, indented by
two blanks for each level.
-/

namespace LexKit

def jsonChar (c : Char) : Text :=
  if c = '"' then ['\\', '"']
  else if c = '\\' then ['\\', '\\']
  else if c = '\x08' then ['\\', 'b']
  else if c = '\x0c' then ['\\', 'f']
  else if c = '\n' then ['\\', 'n']
  else if c = '\r' then ['\\', 'r']
  else if c = '\t' then ['\\', 't']
  else if c.toNat < 0x20 then
    ['\\', 'u', '0', '0', Nat.digitChar (c.toNat / 16), Nat.digitChar (c.toNat % 16)]
  else [c]

def jsonString (text : Text) : Text :=
  ['"'] ++ text.flatMap jsonChar ++ ['"']

variable {κ : Type} [TokenKind κ]

/-- A token as a JSON object without white space. -/
def Token.toJson (token : Token κ) : Text :=
  "\x7b\"type\":".toList ++ jsonString (TokenKind.name token.kind) ++ ",\"value\":".toList ++
    jsonString token.value ++ ['\x7d']

/-- A token as a JSON object over several lines, as an item of an array. -/
def Token.toPrettyJson (token : Token κ) : Text :=
  "  \x7b\n    \"type\": ".toList ++ jsonString (TokenKind.name token.kind) ++
    ",\n    \"value\": ".toList ++ jsonString token.value ++ "\n  \x7d".toList

namespace TokenQueue

/-- All tokens as a JSON array without white space. -/
def toJson (queue : TokenQueue κ) : Text :=
  ['['] ++ Text.join [','] (queue.tokens.map Token.toJson) ++ [']']

/-- All tokens as a JSON array over several lines; an array without items stays on one line. -/
def toPrettyJson (queue : TokenQueue κ) : Text :=
  if queue.isEmpty then ['[', ']']
  else
    ['[', '\n'] ++ Text.join [',', '\n'] (queue.tokens.map Token.toPrettyJson) ++ ['\n', ']']

end TokenQueue

end LexKit

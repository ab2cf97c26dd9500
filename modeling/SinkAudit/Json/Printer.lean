import SinkAudit.Json.Basic
import SinkAudit.Text.Numeral
import SinkAudit.Text.Pad

/-!
# Writing JSON

Two layouts of the same tokens: `compact`, without any blank, and `pretty`, with one member or item
a line and two blanks for each level.  An empty array or object stays on its line in both.

A string is written with escapes for the quote, the backslash and the control characters, the five
common ones by letter and the others by number; every other character stands for itself.
-/

namespace SinkAudit

/-- A number as it is written. -/
def Number.toText : Number → String
  | nat n => toString n
  | minus n => "-" ++ toString n
  | real negative digits exponent =>
    (if negative then "-" else "") ++ toString digits ++ "e" ++ toString exponent

namespace Json

/-- A character inside a string. -/
def escapeChar (c : Char) : List Char :=
  if c == '"' then ['\\', '"']
  else if c == '\\' then ['\\', '\\']
  else if c == '\x08' then ['\\', 'b']
  else if c == '\t' then ['\\', 't']
  else if c == '\n' then ['\\', 'n']
  else if c == '\x0c' then ['\\', 'f']
  else if c == '\r' then ['\\', 'r']
  else if c.toNat < 0x20 then
    ['\\', 'u', '0', '0', Digest.hexDigit (c.toNat / 16), Digest.hexDigit (c.toNat % 16)]
  else [c]

/-- A string with its quotes. -/
def quote (s : String) : String :=
  "\"" ++ String.ofList (s.toList.flatMap escapeChar) ++ "\""

/-- A text with its quotes.  A text that stands for no string is written as half of a surrogate
pair, which is read as the same. -/
def quoteText : Option String → String
  | some s => quote s
  | none => "\"\\ud800\""

mutual

/-- A value without blanks. -/
def compact : Json → String
  | null => "null"
  | bool b => if b then "true" else "false"
  | num n => n.toText
  | str t => quoteText t
  | arr items => "[" ++ compactItems items ++ "]"
  | obj members => "\x7b" ++ compactMembers members ++ "\x7d"

/-- Values with commas between them. -/
def compactItems : List Json → String
  | [] => ""
  | [v] => v.compact
  | v :: w :: vs => v.compact ++ "," ++ compactItems (w :: vs)

/-- Members with commas between them. -/
def compactMembers : List (Option String × Json) → String
  | [] => ""
  | [(k, v)] => quoteText k ++ ":" ++ v.compact
  | (k, v) :: m :: ms => quoteText k ++ ":" ++ v.compact ++ "," ++ compactMembers (m :: ms)

end

/-- The start of a line at a level. -/
def newline (level : Nat) : String :=
  "\n" ++ Text.spaces (2 * level)

mutual

/-- A value with one item a line, in a line of the given level. -/
def prettyAt (level : Nat) : Json → String
  | null => "null"
  | bool b => if b then "true" else "false"
  | num n => n.toText
  | str t => quoteText t
  | arr items =>
    if items.isEmpty then "[]"
    else "[" ++ newline (level + 1) ++ prettyItems (level + 1) items ++ newline level ++ "]"
  | obj members =>
    if members.isEmpty then "\x7b\x7d"
    else
      "\x7b" ++ newline (level + 1) ++ prettyMembers (level + 1) members ++ newline level ++ "\x7d"

/-- Values, each on its line. -/
def prettyItems (level : Nat) : List Json → String
  | [] => ""
  | [v] => v.prettyAt level
  | v :: w :: vs => v.prettyAt level ++ "," ++ newline level ++ prettyItems level (w :: vs)

/-- Members, each on its line. -/
def prettyMembers (level : Nat) : List (Option String × Json) → String
  | [] => ""
  | [(k, v)] => quoteText k ++ ": " ++ v.prettyAt level
  | (k, v) :: m :: ms =>
    quoteText k ++ ": " ++ v.prettyAt level ++ "," ++ newline level ++ prettyMembers level (m :: ms)

end

/-- A value with one item a line. -/
def pretty (v : Json) : String := v.prettyAt 0

end Json

end SinkAudit

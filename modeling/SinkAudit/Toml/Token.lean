import SinkAudit.Json.Token

/-!
# Tokens of a document

What is written in a document, with comments left out and blanks kept: whether a run of characters
is a key or a number depends on where it stands, and so does whether a blank may stand there.

A carriage return belongs to the line feed after it, and a document has no other.
-/

namespace SinkAudit

/-- A token of a document. -/
inductive TomlToken where
  | openBracket
  | closeBracket
  | openBrace
  | closeBrace
  | equals
  | comma
  | dot
  | newline
  /-- Spaces and tabs. -/
  | blank (cs : List Char)
  /-- Characters of keys and numbers. -/
  | bare (cs : List Char)
  /-- A text between quotes on one line. -/
  | quoted (s : String)
  /-- A text between triple quotes. -/
  | block (s : String)
  deriving DecidableEq, Repr

namespace TomlToken

/-- The text with a line feed for each line ending. -/
def joinReturns? : List Char → Option (List Char)
  | [] => some []
  | '\r' :: '\n' :: r => (joinReturns? r).map ('\n' :: ·)
  | '\r' :: _ => none
  | c :: r => (joinReturns? r).map (c :: ·)

/-- Whether a character may stand in a comment or a text as it is. -/
def isPlain (c : Char) : Bool :=
  c == '\t' || (' ' ≤ c && c ≤ '~') || '\x80' ≤ c

/-- Whether a character is a space or a tab. -/
def isSpace (c : Char) : Bool := c == ' ' || c == '\t'

/-- Whether a character belongs to keys, numbers or moments. -/
def isBare (c : Char) : Bool :=
  c.isAlphanum || c == '_' || c == '-' || c == '+' || c == ':'

/-! ## Texts -/

/-- The character with a number, if it is one. -/
def scalar? (n : Nat) : Option Char :=
  if n < 0xD800 ∨ (0xDFFF < n ∧ n < 0x110000) then some (Char.ofNat n) else none

/-- The character for a letter after a backslash. -/
def escape? : Char → Option Char
  | '"' => some '"'
  | '\\' => some '\\'
  | 'b' => some '\x08'
  | 'f' => some '\x0c'
  | 'n' => some '\n'
  | 'r' => some '\r'
  | 't' => some '\t'
  | _ => none

/-- The character written by what follows a backslash, and the rest. -/
def escaped? : List Char → Option (Char × List Char)
  | 'u' :: a :: b :: c :: d :: r =>
    ((CodeUnit.hex4? a b c d).bind scalar?).map (·, r)
  | 'U' :: a :: b :: c :: d :: e :: f :: g :: h :: r =>
    match CodeUnit.hex4? a b c d, CodeUnit.hex4? e f g h with
    | some m, some n => (scalar? (m * 65536 + n)).map (·, r)
    | _, _ => none
  | c :: r => (escape? c).map (·, r)
  | [] => none

/-- Reads a text up to its closing quote; `fuel` bounds the number of characters. -/
def basicText : Nat → List Char → List Char → Option (List Char × List Char)
  | 0, _, _ => none
  | _, _, [] => none
  | _ + 1, sofar, '"' :: r => some (sofar.reverse, r)
  | fuel + 1, sofar, '\\' :: r =>
    match escaped? r with
    | some (c, r) => basicText fuel (c :: sofar) r
    | none => none
  | fuel + 1, sofar, c :: r => if isPlain c then basicText fuel (c :: sofar) r else none

/-- Reads a text without escapes up to its closing quote. -/
def literalText (sofar : List Char) : List Char → Option (List Char × List Char)
  | [] => none
  | '\'' :: r => some (sofar.reverse, r)
  | c :: r => if isPlain c then literalText (c :: sofar) r else none

/-- The end of a text between triple quotes: up to two more quotes belong to the text. -/
def closeBlock (quote : Char) (sofar r : List Char) : List Char × List Char :=
  match r with
  | a :: b :: r' =>
    if a == quote && b == quote then ((b :: a :: sofar).reverse, r')
    else if a == quote then ((a :: sofar).reverse, b :: r')
    else (sofar.reverse, r)
  | [a] => if a == quote then ((a :: sofar).reverse, []) else (sofar.reverse, r)
  | [] => (sofar.reverse, r)

/-- The rest after a backslash at the end of a line: all blanks and line feeds up to the next
character are left out. -/
def dropFold? (cs : List Char) : Option (List Char) :=
  match cs.dropWhile isSpace with
  | '\n' :: r => some (r.dropWhile fun c => isSpace c || c == '\n')
  | _ => none

/-- Reads a text between triple quotes. -/
def basicBlock : Nat → List Char → List Char → Option (List Char × List Char)
  | 0, _, _ => none
  | _, _, [] => none
  | _ + 1, sofar, '"' :: '"' :: '"' :: r => some (closeBlock '"' sofar r)
  | fuel + 1, sofar, '\\' :: r =>
    match dropFold? r, escaped? r with
    | some r, _ => basicBlock fuel sofar r
    | none, some (c, r) => basicBlock fuel (c :: sofar) r
    | none, none => none
  | fuel + 1, sofar, c :: r =>
    if isPlain c || c == '\n' then basicBlock fuel (c :: sofar) r else none

/-- Reads a text without escapes between triple quotes. -/
def literalBlock (sofar : List Char) : List Char → Option (List Char × List Char)
  | [] => none
  | '\'' :: '\'' :: '\'' :: r => some (closeBlock '\'' sofar r)
  | c :: r => if isPlain c || c == '\n' then literalBlock (c :: sofar) r else none

/-- A line feed right after the opening quotes does not belong to the text. -/
def dropFirstLine : List Char → List Char
  | '\n' :: r => r
  | cs => cs

/-! ## Tokens -/

/-- The token of a single character. -/
def punctuation? : Char → Option TomlToken
  | '[' => some .openBracket
  | ']' => some .closeBracket
  | '\x7b' => some .openBrace
  | '\x7d' => some .closeBrace
  | '=' => some .equals
  | ',' => some .comma
  | '.' => some .dot
  | '\n' => some .newline
  | _ => none

/-- The first token, if it is not a comment, and the rest. -/
def next? : List Char → Option (Option TomlToken × List Char)
  | [] => none
  | '"' :: '"' :: '"' :: r =>
    (basicBlock (r.length + 1) [] (dropFirstLine r)).map fun p =>
      (some (.block (String.ofList p.1)), p.2)
  | '"' :: r =>
    (basicText (r.length + 1) [] r).map fun p => (some (.quoted (String.ofList p.1)), p.2)
  | '\'' :: '\'' :: '\'' :: r =>
    (literalBlock [] (dropFirstLine r)).map fun p => (some (.block (String.ofList p.1)), p.2)
  | '\'' :: r => (literalText [] r).map fun p => (some (.quoted (String.ofList p.1)), p.2)
  | '#' :: r =>
    if (r.takeWhile (· != '\n')).all isPlain then some (none, r.dropWhile (· != '\n')) else none
  | c :: r =>
    match punctuation? c with
    | some t => some (some t, r)
    | none =>
      if isSpace c then some (some (.blank (c :: r.takeWhile isSpace)), r.dropWhile isSpace)
      else if isBare c then some (some (.bare (c :: r.takeWhile isBare)), r.dropWhile isBare)
      else none

/-- The tokens of a list of characters; every token takes at least one. -/
def tokensFrom : Nat → List Char → Option (List TomlToken)
  | _, [] => some []
  | 0, _ :: _ => none
  | fuel + 1, cs =>
    match next? cs with
    | none => none
    | some (t, r) => (tokensFrom fuel r).map (t.toList ++ ·)

/-- The tokens of a text, which may begin with a byte order mark. -/
def tokens? (s : String) : Option (List TomlToken) :=
  let cs := match s.toList with
    | '\ufeff' :: r => r
    | cs => cs
  (joinReturns? cs).bind fun cs => tokensFrom cs.length cs

end TomlToken

end SinkAudit

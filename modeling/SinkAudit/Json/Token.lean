import SinkAudit.Json.Basic
import SinkAudit.Text.Numeral

/-!
# JSON tokens

A JSON text is read character by character.  The `Lexer` knows what it is in the middle of: nothing,
a word, a number, a string, or the character after a backslash.  Words and numbers end with the
first character that cannot belong to them, and that character is then read again from the start.

* `units?`, `pair?`: the string between two quotes, first with escapes as code units, then with the
  two halves of a surrogate pair joined.
* `Number.parse?`: the number written by a run of characters.
* `Json.tokens?`: the tokens of a text.
-/

namespace SinkAudit

/-- A token of a JSON text. -/
inductive JsonToken where
  | openBrace
  | closeBrace
  | openBracket
  | closeBracket
  | comma
  | colon
  | null
  | bool (b : Bool)
  | num (n : Number)
  | str (text : Option String)
  deriving DecidableEq, Repr

/-! ## Strings -/

/-- A character of a string, or a code unit that was written as an escape. -/
inductive CodeUnit where
  | char (c : Char)
  | code (n : Nat)

namespace CodeUnit

/-- The value of four hexadecimal digits. -/
def hex4? (a b c d : Char) : Option Nat :=
  match Text.hexDigit? a, Text.hexDigit? b, Text.hexDigit? c, Text.hexDigit? d with
  | some a, some b, some c, some d => some (((a * 16 + b) * 16 + c) * 16 + d)
  | _, _, _, _ => none

/-- The character for a letter after a backslash. -/
def escape? : Char → Option Char
  | '"' => some '"'
  | '\\' => some '\\'
  | '/' => some '/'
  | 'b' => some '\x08'
  | 'f' => some '\x0c'
  | 'n' => some '\n'
  | 'r' => some '\r'
  | 't' => some '\t'
  | _ => none

/-- Resolves the escapes of a string. -/
def units? : List Char → Option (List CodeUnit)
  | [] => some []
  | '\\' :: 'u' :: a :: b :: c :: d :: r =>
    match hex4? a b c d, units? r with
    | some n, some us => some (.code n :: us)
    | _, _ => none
  | '\\' :: e :: r =>
    match escape? e, units? r with
    | some c, some us => some (.char c :: us)
    | _, _ => none
  | ['\\'] => none
  | c :: r => (units? r).map (.char c :: ·)

/-- Whether a code unit is the first half of a surrogate pair. -/
def isHigh (n : Nat) : Bool := 0xD800 ≤ n && n < 0xDC00

/-- Whether a code unit is the second half of a surrogate pair. -/
def isLow (n : Nat) : Bool := 0xDC00 ≤ n && n < 0xE000

/-- Joins surrogate pairs; a half that stands alone has no character. -/
def pair? : List CodeUnit → Option (List Char)
  | [] => some []
  | .char c :: r => (pair? r).map (c :: ·)
  | .code n :: r =>
    if isHigh n then
      match r with
      | .code m :: r' =>
        if isLow m then
          (pair? r').map (Char.ofNat (0x10000 + (n - 0xD800) * 0x400 + (m - 0xDC00)) :: ·)
        else none
      | _ => none
    else if isLow n then none
    else (pair? r).map (Char.ofNat n :: ·)

end CodeUnit

/-! ## Numbers -/

/-- The value of decimal digits. -/
def decimal (ds : List Char) : Nat :=
  ds.foldl (fun n d => 10 * n + (d.toNat - '0'.toNat)) 0

/-- Digits without a leading zero, or a zero alone. -/
def isWhole : List Char → Bool
  | [] => false
  | ['0'] => true
  | '0' :: _ => false
  | _ => true

/-- The exponent after the letter `e`. -/
def exponent? (s : List Char) : Option Int :=
  let (negative, ds) := match s with
    | '+' :: r => (false, r)
    | '-' :: r => (true, r)
    | r => (false, r)
  if ds.isEmpty || !ds.all Char.isDigit then none
  else some (if negative then -(decimal ds : Int) else decimal ds)

/-- What follows the whole part: the digits after the point and the exponent. -/
def fraction? (s : List Char) : Option (List Char × Option Int) :=
  let (digits, r) := match s with
    | '.' :: r => (some (r.takeWhile Char.isDigit), r.dropWhile Char.isDigit)
    | _ => (none, s)
  if digits == some [] then none
  else
    match r with
    | [] => some (digits.getD [], none)
    | e :: r' =>
      if e == 'e' || e == 'E' then (exponent? r').map fun x => (digits.getD [], some x) else none

/-- The number written by a run of characters. -/
def Number.parse? (s : List Char) : Option Number :=
  let (negative, r) := match s with
    | '-' :: r => (true, r)
    | _ => (false, s)
  let whole := r.takeWhile Char.isDigit
  let rest := r.dropWhile Char.isDigit
  if !isWhole whole then none
  else if rest.isEmpty then some (if negative then .minus (decimal whole) else .nat (decimal whole))
  else
    match fraction? rest with
    | some (digits, exponent) =>
      some (.ofDigits negative whole digits (exponent.getD 0))
    | none => none

/-! ## The lexer -/

/-- What the lexer is in the middle of; characters are kept latest first. -/
inductive LexMode where
  | idle
  | word (sofar : List Char)
  | number (sofar : List Char)
  | string (sofar : List Char)
  | escape (sofar : List Char)

/-- A lexer with the tokens read so far, latest first. -/
structure Lexer where
  mode : LexMode
  out : List JsonToken

namespace Lexer

/-- A lexer that has read nothing. -/
def initial : Lexer := ⟨.idle, []⟩

/-- Whether a character can stand in a number. -/
def isNumeric (c : Char) : Bool :=
  c.isDigit || c == '-' || c == '+' || c == '.' || c == 'e' || c == 'E'

/-- The token of a word. -/
def word? : List Char → Option JsonToken
  | ['n', 'u', 'l', 'l'] => some .null
  | ['t', 'r', 'u', 'e'] => some (.bool true)
  | ['f', 'a', 'l', 's', 'e'] => some (.bool false)
  | _ => none

/-- The token of the characters between two quotes. -/
def string? (s : List Char) : Option JsonToken :=
  (CodeUnit.units? s).map fun us => .str ((CodeUnit.pair? us).map String.ofList)

/-- Ends a word or a number. -/
def settle (x : Lexer) : Option Lexer :=
  match x.mode with
  | .idle => some x
  | .word w => (word? w.reverse).map fun t => ⟨.idle, t :: x.out⟩
  | .number w => (Number.parse? w.reverse).map fun n => ⟨.idle, .num n :: x.out⟩
  | .string _ => none
  | .escape _ => none

/-- Reads a character that starts something new. -/
def start (out : List JsonToken) (c : Char) : Option Lexer :=
  if c == ' ' || c == '\t' || c == '\n' || c == '\r' then some ⟨.idle, out⟩
  else if c == '\x7b' then some ⟨.idle, .openBrace :: out⟩
  else if c == '\x7d' then some ⟨.idle, .closeBrace :: out⟩
  else if c == '[' then some ⟨.idle, .openBracket :: out⟩
  else if c == ']' then some ⟨.idle, .closeBracket :: out⟩
  else if c == ',' then some ⟨.idle, .comma :: out⟩
  else if c == ':' then some ⟨.idle, .colon :: out⟩
  else if c == '"' then some ⟨.string [], out⟩
  else if c == '-' || c.isDigit then some ⟨.number [c], out⟩
  else if c.isLower then some ⟨.word [c], out⟩
  else none

/-- Reads one character. -/
def feed (x : Lexer) (c : Char) : Option Lexer :=
  match x.mode with
  | .idle => start x.out c
  | .word w =>
    if c.isLower then some ⟨.word (c :: w), x.out⟩
    else x.settle.bind fun y => start y.out c
  | .number w =>
    if isNumeric c then some ⟨.number (c :: w), x.out⟩
    else x.settle.bind fun y => start y.out c
  | .string w =>
    if c == '"' then (string? w.reverse).map fun t => ⟨.idle, t :: x.out⟩
    else if c == '\\' then some ⟨.escape (c :: w), x.out⟩
    else if c.toNat < 0x20 then none
    else some ⟨.string (c :: w), x.out⟩
  | .escape w => some ⟨.string (c :: w), x.out⟩

/-- Reads characters in turn. -/
def run : Lexer → List Char → Option Lexer
  | x, [] => some x
  | x, c :: r =>
    match x.feed c with
    | some y => run y r
    | none => none

end Lexer

/-- The tokens of a JSON text. -/
def Json.tokens? (s : List Char) : Option (List JsonToken) :=
  ((Lexer.initial.run s).bind Lexer.settle).map fun x => x.out.reverse

end SinkAudit

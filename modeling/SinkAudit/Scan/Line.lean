import SinkAudit.Text.Character

/-!
# Lines of a source text

A line ends with a line feed, with a carriage return, or with the two together, and keeps its
terminator.  So the lines of a text put end to end are the text again, and a line knows whether
anything closed it.

* `splitChars`, `split`: the lines of a text.
* `isComment`, `isMinified`: the two reasons to pass over a line, both judged on its trimmed form.
* `terminator`, `body`: a line taken apart.
-/

namespace SinkAudit.Scan.Line

/-- The lines of a list of characters, each with its terminator. -/
def splitChars : List Char → List (List Char)
  | [] => []
  | '\n' :: r => ['\n'] :: splitChars r
  | '\r' :: '\n' :: r => ['\r', '\n'] :: splitChars r
  | '\r' :: r => ['\r'] :: splitChars r
  | c :: r =>
    match splitChars r with
    | [] => [[c]]
    | l :: ls => (c :: l) :: ls

/-- The lines of a text, each with its terminator. -/
def split (content : String) : List String :=
  (splitChars content.toList).map String.ofList

/-- Whether a trimmed line opens with `//` or with `*`.  This is a test of the first characters
only: a comment that opens further right, or with `/*`, is not seen. -/
def isComment (trimmed : String) : Bool :=
  match trimmed.toList with
  | '/' :: '/' :: _ => true
  | '*' :: _ => true
  | _ => false

/-- Whether a trimmed line has more than `limit` characters. -/
def isMinified (trimmed : String) (limit : Nat) : Bool :=
  limit < trimmed.length

/-- Whether a character ends a line. -/
def isTerminator (c : Char) : Bool :=
  c == '\r' || c == '\n'

/-- The line without the terminators at its end. -/
def body (line : String) : String :=
  String.ofList (Text.dropEndWhile isTerminator line.toList)

/-- Whether the line ends with a terminator. -/
def isClosed (line : String) : Bool :=
  (body line).length < line.length

end SinkAudit.Scan.Line

/-!
# Rows of a text

The rows of a text are what stands between line feeds.  A carriage return right before a line feed
belongs to the end of its row; elsewhere it is an ordinary character.  Nothing follows a line feed
at the very end, so a text that ends with one has no further, empty row.

A file that need not be text is cut into rows first, and its rows are read as far as they are text.
-/

namespace SinkAudit.Text

/-- The row without the carriage return at its end. -/
def dropReturn (row : List Char) : List Char :=
  match row.reverse with
  | '\r' :: r => r.reverse
  | _ => row

/-- The rows of a list of characters; `sofar` is the current row, latest character first. -/
def rowsFrom (sofar : List Char) : List Char → List (List Char)
  | [] => if sofar.isEmpty then [] else [sofar.reverse]
  | c :: r =>
    if c == '\n' then dropReturn sofar.reverse :: rowsFrom [] r
    else rowsFrom (c :: sofar) r

/-- The rows of a text. -/
def rows (s : String) : List String :=
  (rowsFrom [] s.toList).map String.ofList

/-- The rows of bytes as texts, up to the first that is not text; `sofar` is the current row, latest
byte first. -/
def textRowsFrom (sofar : List UInt8) : List UInt8 → List String
  | [] => if sofar.isEmpty then [] else (String.fromUTF8? sofar.reverse.toByteArray).toList
  | b :: r =>
    if b == 10 then
      let row := match sofar with
        | 13 :: s => s
        | s => s
      match String.fromUTF8? row.reverse.toByteArray with
      | some t => t :: textRowsFrom [] r
      | none => []
    else textRowsFrom (b :: sofar) r

/-- The rows of a file, up to the first that is not text. -/
def textRows (bytes : ByteArray) : List String :=
  textRowsFrom [] bytes.toList

end SinkAudit.Text

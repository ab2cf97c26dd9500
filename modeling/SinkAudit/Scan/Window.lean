import SinkAudit.Scan.Line
import SinkAudit.Text.Pad
import SinkAudit.Word

/-!
# Context windows

A window shows the lines within a given distance of a target line, each with its number and with a
mark on the target.  Line numbers and distances are 64-bit words.

A window stops at the first line and at the last.  Its upper end is found as a sum of words before it is
compared with the number of lines; so there is no window where that sum is not a word, however few lines
there are.
-/

namespace SinkAudit.Scan

/-- The number of values of a machine word. -/
def wordSize : Nat := Word.count64

namespace Window

/-- The index of the first line shown. -/
def start (target radius : Nat) : Nat :=
  target - radius

/-- The index after the last line shown, among `count` lines. -/
def stop (target radius count : Nat) : Except Error Nat :=
  (Word.checked (target + radius + 1)).map (min · count)

/-- One line of a window: number, mark, text, and a line feed when the source line was closed. -/
def row (target index : Nat) (line : String) : String :=
  Text.padLeft 4 (toString (index + 1)) ++ " | " ++ (if index = target then ">" else " ") ++ " " ++
    Line.body line ++ (if Line.isClosed line then "\n" else "")

/-- The rows for a run of lines whose first has the given index. -/
def rows (target : Nat) : Nat → List String → List String
  | _, [] => []
  | i, l :: ls => row target i l :: rows target (i + 1) ls

/-- The rows of the lines from one index up to another. -/
def text (lines : List String) (target first last : Nat) : String :=
  Text.concat (rows target first ((lines.take last).drop first))

end Window

/-- The window of `radius` lines on either side of the line with index `target`. -/
def contextWindow (lines : List String) (target radius : Nat) : Except Error String :=
  (Window.stop target radius lines.length).map
    (Window.text lines target (Window.start target radius))

end SinkAudit.Scan

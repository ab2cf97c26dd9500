/-!
# Columns

Text set in columns of a least width.  The width counts characters, not bytes, and a text that is
already as wide as its column is left alone, never cut.
-/

namespace SinkAudit.Text

/-- A run of `n` blanks. -/
def spaces (n : Nat) : String :=
  String.ofList (List.replicate n ' ')

/-- The text moved to the right end of a column of width `n`. -/
def padLeft (n : Nat) (s : String) : String :=
  spaces (n - s.length) ++ s

/-- The text at the left end of a column of width `n`. -/
def padRight (n : Nat) (s : String) : String :=
  s ++ spaces (n - s.length)

/-- The texts one after the other. -/
def concat (l : List String) : String :=
  l.foldr (· ++ ·) ""

/-- The texts one after the other with `sep` between neighbours. -/
def joinWith (sep : String) : List String → String
  | [] => ""
  | [s] => s
  | s :: t :: l => s ++ sep ++ joinWith sep (t :: l)

/-- A text written `n` times. -/
def repeated (n : Nat) (s : String) : String :=
  concat (List.replicate n s)

end SinkAudit.Text

import SinkAudit.Pattern.CharClass
import SinkAudit.Text.Numeral

/-!
# Classes with names

A class can be written as text: code points in base sixteen, ranges with a dash, and ranges of every
second code point with `/2` behind them.
-/

namespace SinkAudit

namespace CharClass

/-- Every second code point; `count` of them, the first of them at `n`. -/
def everySecond : Nat → Nat → List (Nat × Nat)
  | 0, _ => []
  | count + 1, n => (n, n) :: everySecond count (n + 2)

/-- The ranges of an entry. -/
def entryRanges (s : String) : List (Nat × Nat) :=
  let (range, sparse) :=
    match s.splitOn "/" with
    | [r, _] => (r, true)
    | _ => (s, false)
  let code (t : String) : Nat := Text.numeral 16 t.toList
  match range.splitOn "-" with
  | [a, b] =>
    if sparse then everySecond ((code b - code a) / 2 + 1) (code a) else [(code a, code b)]
  | _ => [(code range, code range)]

/-- The class of rows of entries with blanks between them, all in order. -/
def ofRows (rows : List String) : CharClass :=
  ⟨rows.flatMap fun row => (row.splitOn " ").flatMap entryRanges⟩

end CharClass

/-- A class with its names, in small letters and without dashes or blanks. -/
structure NamedClass where
  names : List String
  rows : List String

namespace NamedClass

/-- The characters of a class. -/
def chars (c : NamedClass) : CharClass := .ofRows c.rows

/-- The class with a name. -/
def find? (name : String) (cs : List NamedClass) : Option CharClass :=
  (cs.find? fun c => c.names.contains name).map chars

end NamedClass

end SinkAudit

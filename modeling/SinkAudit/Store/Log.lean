import SinkAudit.Text.Character
import SinkAudit.Text.Rows
import SinkAudit.Verdict.Basic

/-!
# The log of verdicts

A log is a text with one record a row.  A later record for a signature replaces an earlier one, and
a row that is no record counts for nothing, so damage to one row is damage to that row only.

* `Entries`: what a log says, as a list ordered by signature with one verdict for each.
* `Log.entries`: the reading of a log.
* `Log.line`, `Log.text`: the writing of a record and of a whole log.
-/

namespace SinkAudit

/-- Verdicts by signature, in the order of the signatures. -/
abbrev Entries := List (String × Verdict)

namespace Entries

/-- The verdict for a signature. -/
def get? (sig : String) : Entries → Option Verdict
  | [] => none
  | (k, v) :: es => if k = sig then some v else get? sig es

/-- The entries with one verdict added or replaced. -/
def insert (sig : String) (v : Verdict) : Entries → Entries
  | [] => [(sig, v)]
  | (k, u) :: es =>
    if k = sig then (sig, v) :: es
    else if sig < k then (sig, v) :: (k, u) :: es
    else (k, u) :: insert sig v es

end Entries

namespace Log

/-- A record as a JSON value. -/
def recordJson (sig : String) (v : Verdict) : Json :=
  .object [("signature", .text sig), ("verdict", v.toJson)]

/-- The row of a record, with its line feed. -/
def line (sig : String) (v : Verdict) : String :=
  (recordJson sig v).compact ++ "\n"

/-- The log that has exactly the given entries. -/
def text : Entries → String
  | [] => ""
  | (k, v) :: es => line k v ++ text es

/-- The record that a row is. -/
def record? (row : String) : Option (String × Verdict) := do
  let v ← Json.parse? row
  let r ← Record.ofJson? ["signature", "verdict"] false v
  let sig ← r.required "signature" Json.string?
  let verdict ← r.required "verdict" Verdict.ofJson?
  return (sig, verdict)

/-- What one row adds to the entries. -/
def readRow (es : Entries) (row : String) : Entries :=
  match record? row with
  | some (sig, v) => es.insert sig v
  | none => es

/-- What a log says. -/
def entries (log : String) : Entries :=
  (Text.rows log).foldl readRow []

/-- Whether a log stops in the middle of a row. -/
def isTorn (log : String) : Bool :=
  match log.toList.getLast? with
  | none => false
  | some c => c != '\n'

end Log

end SinkAudit

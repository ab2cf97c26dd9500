import SinkAudit.Report.Moment
import SinkAudit.Rule.Listing
import SinkAudit.Text.Character
import SinkAudit.Verdict.Basic
import SinkAudit.Workspace.Path

/-!
# Reports

What an audit found, and the orders and counts that the printed forms share.
-/

namespace SinkAudit

/-- The counts of one run of the analysis. -/
structure Stats where
  candidates : Nat := 0
  /-- Different signatures among the candidates. -/
  unique : Nat := 0
  cacheHits : Nat := 0
  /-- Verdicts that a classifier gave. -/
  classified : Nat := 0
  /-- Candidates that could not be judged. -/
  failures : Nat := 0
  confirmed : Nat := 0
  deriving DecidableEq, Repr, Inhabited

namespace Stats

/-- The names of the counts in their order. -/
def fieldNames : List String :=
  ["candidates", "unique", "cache_hits", "classified", "failures", "confirmed"]

/-- The counts as a JSON value. -/
def toJson (s : Stats) : Json :=
  .object [("candidates", .ofNat s.candidates), ("unique", .ofNat s.unique),
    ("cache_hits", .ofNat s.cacheHits), ("classified", .ofNat s.classified),
    ("failures", .ofNat s.failures), ("confirmed", .ofNat s.confirmed)]

/-- The counts that a JSON value gives. -/
def ofJson? (v : Json) : Option Stats := do
  let r ← Record.ofJson? fieldNames false v
  let candidates ← r.required "candidates" Json.word64?
  let unique ← r.required "unique" Json.word64?
  let cacheHits ← r.required "cache_hits" Json.word64?
  let classified ← r.required "classified" Json.word64?
  let failures ← r.required "failures" Json.word64?
  let confirmed ← r.required "confirmed" Json.word64?
  return ⟨candidates, unique, cacheHits, classified, failures, confirmed⟩

end Stats

/-- The result of an audit. -/
structure Report where
  target : String
  scannedAt : Moment
  candidates : Nat
  findings : List Finding
  stats : Stats
  /-- The rules that were in force. -/
  rules : List RuleInfo
  deriving Repr, Inhabited

namespace Report

/-- The printed forms of a report. -/
inductive Format where
  | console
  | json
  | markdown
  | sarif
  deriving DecidableEq, Repr, Inhabited

namespace Format

/-- The name of a form. -/
def name : Format → String
  | console => "console"
  | json => "json"
  | markdown => "markdown"
  | sarif => "sarif"

/-- The form with exactly this name. -/
def ofName? : String → Option Format
  | "console" => some console
  | "json" => some json
  | "markdown" => some markdown
  | "sarif" => some sarif
  | _ => none

/-- The form a word stands for, whatever the case of its letters. -/
def ofWord? (s : String) : Option Format :=
  match Text.keyword s with
  | "text" => some console
  | "table" => some console
  | "md" => some markdown
  | w => ofName? w

/-- A form as a JSON value. -/
def toJson (f : Format) : Json := .text f.name

/-- The form that a JSON value names: a string, or an object whose one member has the name and no
content. -/
def ofJson? : Json → Option Format
  | .str t => t.bind ofName?
  | .obj [(some k, .null)] => ofName? k
  | _ => none

end Format

/-- How many findings there are of each severity, highest first. -/
def severityCounts (findings : List Finding) : List (Severity × Nat) :=
  Severity.all.map fun s => (s, (findings.filter fun f => f.severity == s).length)

/-- Whether a finding comes before another, or beside it, in a list by severity: the more severe
first, then by file, then by line. -/
def precedes (a b : Finding) : Bool :=
  match compare b.severity.rank a.severity.rank with
  | .lt => true
  | .gt => false
  | .eq =>
    match Path.compare a.candidate.file b.candidate.file with
    | .lt => true
    | .gt => false
    | .eq => a.candidate.line ≤ b.candidate.line

/-- The findings by severity; those that are alike in all three points keep their order. -/
def bySeverity (findings : List Finding) : List Finding :=
  findings.mergeSort precedes

end Report

end SinkAudit

import SinkAudit.Json.Printer
import SinkAudit.Json.Record
import SinkAudit.Rule.Severity
import SinkAudit.Scan.Candidate

/-!
# Verdicts and findings

A verdict says whether a candidate is a vulnerability, and why.  A finding is a candidate together
with the verdict that confirmed it.
-/

namespace SinkAudit

/-- The severity that a JSON value names. -/
def Severity.ofJson? (v : Json) : Option Severity :=
  v.string?.bind Severity.ofWord?

/-- A severity as a JSON value. -/
def Severity.toJson (s : Severity) : Json :=
  .text s.name

/-- The judgement on a candidate. -/
structure Verdict where
  isVulnerable : Bool
  severity : Severity
  reasoning : String
  fix : String
  deriving DecidableEq, Repr, Inhabited

namespace Verdict

/-- The severity of a verdict that names none. -/
def defaultSeverity : Severity := .medium

/-- The verdict on a candidate that could not be judged. -/
def analysisError : Verdict :=
  ⟨false, defaultSeverity, "Analysis Error", ""⟩

/-- The names of the fields in their order. -/
def fieldNames : List String :=
  ["is_vulnerable", "severity", "reasoning", "fix"]

/-- A verdict as a JSON value. -/
def toJson (v : Verdict) : Json :=
  .object [("is_vulnerable", .bool v.isVulnerable), ("severity", v.severity.toJson),
    ("reasoning", .text v.reasoning), ("fix", .text v.fix)]

/-- The verdict that a JSON value is; all but the first field have defaults. -/
def ofJson? (v : Json) : Option Verdict := do
  let r ← Record.ofJson? fieldNames false v
  let isVulnerable ← r.required "is_vulnerable" Json.bool?
  let severity ← r.defaulted "severity" Severity.ofJson? defaultSeverity
  let reasoning ← r.defaulted "reasoning" Json.string? ""
  let fix ← r.defaulted "fix" Json.string? ""
  return ⟨isVulnerable, severity, reasoning, fix⟩

end Verdict

/-- A candidate that has been confirmed. -/
structure Finding where
  candidate : Candidate
  severity : Severity
  analysis : String
  fix : String
  deriving DecidableEq, Repr, Inhabited

namespace Finding

/-- The finding that a verdict makes of a candidate: none if the verdict is negative. -/
def confirm (c : Candidate) (v : Verdict) : Option Finding :=
  if v.isVulnerable then some ⟨c, v.severity, v.reasoning, v.fix⟩ else none

/-- The file and the line, for display. -/
def location (f : Finding) : String :=
  f.candidate.location

/-- A finding as a JSON value: the fields of the candidate, then its own, on one level. -/
def toJson (f : Finding) : Json :=
  .object (f.candidate.members ++
    [("severity", f.severity.toJson), ("analysis", .text f.analysis),
     ("fix_suggestion", .text f.fix)])

/-- The names of the fields that a finding adds to its candidate. -/
def ownNames : List String :=
  ["severity", "analysis", "fix_suggestion"]

/-- How deeply a finding's fields may nest. -/
def maxDepth : Nat := 126

/-- Whether a member that is not the finding's own can be set aside until the candidate is read. -/
def isSetAside (m : Option String × Json) : Bool :=
  match m.1 with
  | none => false
  | some k => ownNames.contains k || (m.2.isConcrete && m.2.depth ≤ maxDepth)

/-- The finding that a JSON value is.  Only an object will do.  What is not the finding's own is
set aside first, so it has to be concrete even if nobody asks for it. -/
def ofJson? : Json → Option Finding
  | .obj ms => do
    guard (ms.all isSetAside)
    let r ← Record.ofJson? (Candidate.fieldNames ++ ownNames) false (.obj ms)
    let candidate ← Candidate.ofRecord? r
    let severity ← r.required "severity" Severity.ofJson?
    let analysis ← r.required "analysis" Json.string?
    let fix ← r.required "fix_suggestion" Json.string?
    return ⟨candidate, severity, analysis, fix⟩
  | _ => none

end Finding

end SinkAudit

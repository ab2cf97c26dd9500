import SinkAudit.Report.Basic

/-!
# The report as a SARIF log

One result for each finding in order, and the rules that occur in a result, in the order of the
catalog.  The members of every object stand in alphabetical order.
-/

namespace SinkAudit.Report.Sarif

/-- The level of a severity. -/
def level : Severity → String
  | .critical => "error"
  | .high => "error"
  | .medium => "warning"
  | .low => "note"

/-- An object with a text. -/
def message (s : String) : Json := .object [("text", .text s)]

/-- A rule of the log. -/
def rule (r : RuleInfo) : Json :=
  let tags : List (String × Json) := match r.cwe with
    | some cwe => [("properties", .object [("tags", .texts [cwe])])]
    | none => []
  .object ([("defaultConfiguration", .object [("level", .text (level r.severity))]),
    ("fullDescription", message r.description), ("id", .text r.id), ("name", .text r.name)] ++
    tags ++ [("shortDescription", message r.name)])

/-- A result of the log. -/
def result (f : Finding) : Json :=
  .object
    [("fixes", .arr [.object [("description", message f.fix)]]),
     ("level", .text (level f.severity)),
     ("locations", .arr [.object [("physicalLocation", .object
       [("artifactLocation", .object [("uri", .text f.candidate.file)]),
        ("region", .object
          [("snippet", message f.candidate.rawLine),
           ("startLine", .ofNat f.candidate.line)])])]]),
     ("message", message f.analysis),
     ("properties", .object [("severity", f.severity.toJson)]),
     ("ruleId", .text f.candidate.ruleId)]

/-- The rules that occur in a finding, in the order of the catalog. -/
def usedRules (r : Report) : List RuleInfo :=
  r.rules.filter fun i => r.findings.any fun f => f.candidate.ruleId == i.id

/-- The version of the program. -/
def version : String := "0.1.0"

/-- The report as a JSON value, with a name of its own for the run. -/
def log (guid : String) (r : Report) : Json :=
  let tool : Json := .object [("driver", .object
    [("name", .text "sinkscan"), ("rules", .arr ((usedRules r).map rule)),
     ("semanticVersion", .text version), ("version", .text version)])]
  .object
    [("$schema", .text
       "https://docs.oasis-open.org/sarif/sarif/v2.1.0/errata01/os/schemas/sarif-schema-2.1.0.json"),
     ("runs", .arr [.object
       [("automationDetails", .object
          [("guid", .text guid), ("id", .text ("sinkscan/" ++ r.target))]),
        ("results", .arr (r.findings.map result)), ("tool", tool)]]),
     ("version", .text "2.1.0")]

/-- The report as a SARIF log. -/
def render (guid : String) (r : Report) : String :=
  (log guid r).pretty

end SinkAudit.Report.Sarif

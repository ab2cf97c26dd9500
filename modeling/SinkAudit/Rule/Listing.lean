import SinkAudit.Rule.Basic
import SinkAudit.Verdict.Basic

/-!
# Rules as records

The form in which rules are listed for other programs.  The code of the weakness may be `null`.
-/

namespace SinkAudit

namespace RuleInfo

/-- The names of the fields in their order. -/
def fieldNames : List String :=
  ["id", "name", "description", "default_severity", "cwe_id", "patterns"]

/-- A rule's listing as a JSON value. -/
def toJson (r : RuleInfo) : Json :=
  .object [("id", .text r.id), ("name", .text r.name), ("description", .text r.description),
    ("default_severity", .text r.severity.name), ("cwe_id", .textOrNull r.cwe),
    ("patterns", .texts r.patterns)]

/-- The rule's listing that a JSON value is. -/
def ofJson? (v : Json) : Option RuleInfo := do
  let r ← Record.ofJson? fieldNames false v
  let id ← r.required "id" Json.string?
  let name ← r.required "name" Json.string?
  let description ← r.required "description" Json.string?
  let severity ← r.required "default_severity" Severity.ofJson?
  let cwe ← r.nullable "cwe_id" Json.string?
  let patterns ← r.required "patterns" (Json.list? Json.string?)
  return ⟨id, name, description, severity, cwe, patterns⟩

end RuleInfo

end SinkAudit

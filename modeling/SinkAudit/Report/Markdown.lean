import SinkAudit.Report.Basic
import SinkAudit.Text.Character

/-!
# The report as a Markdown document

A summary by severity, then a section for each finding in the order in which they were found.
-/

namespace SinkAudit.Report.Markdown

/-- The mark of a severity. -/
def icon : Severity → String
  | .critical => "🔴"
  | .high => "🟠"
  | .medium => "🟡"
  | .low => "🔵"

/-- The lines above the sections. -/
def summary (r : Report) : String :=
  "# 🛡️ JavaScript Security Audit Report\n\n" ++
  "**Target Directory:** `" ++ r.target ++ "`\n" ++
  "**Scan Date:** " ++ r.scannedAt.toText ++ "\n\n" ++
  "## 📊 Executive Summary\n\n" ++
  "| Severity | Count |\n" ++
  "| :--- | :---: |\n" ++
  Text.concat ((severityCounts r.findings).map fun (s, n) =>
    "| " ++ icon s ++ " " ++ s.name ++ " | " ++ toString n ++ " |\n") ++
  "\n**Total Verified Issues:** " ++ toString r.findings.length ++ "\n\n" ++
  "---\n\n" ++
  "## 🔍 Detailed Findings\n\n" ++
  (if r.findings.isEmpty then "No vulnerabilities detected.\n" else "")

/-- The code of a finding between fences. -/
def codeBlock (snippet : String) : String :=
  "```javascript\n" ++ Text.trim snippet ++ "\n```"

/-- The section of a finding. -/
def findingSection (number : Nat) (f : Finding) : String :=
  "### " ++ toString number ++ ". " ++ icon f.severity ++ " " ++ f.candidate.vulnName ++ "\n\n" ++
  "- **Location:** `" ++ f.location ++ "`\n" ++
  "- **Severity:** " ++ f.severity.name ++ "\n" ++
  "- **Confidence:** High (AI Verified)\n\n" ++
  "#### 📝 Analysis\n" ++ f.analysis ++ "\n\n" ++
  "#### 💻 Vulnerable Code\n" ++ codeBlock f.candidate.snippet ++ "\n\n" ++
  "#### 🛠️ Suggested Fix\n" ++ f.fix ++ "\n\n" ++
  "---\n\n"

/-- The sections of findings, numbered from `n`. -/
def sections : Nat → List Finding → String
  | _, [] => ""
  | n, f :: fs => findingSection n f ++ sections (n + 1) fs

/-- The report as a Markdown document. -/
def render (r : Report) : String :=
  summary r ++ sections 1 r.findings

end SinkAudit.Report.Markdown

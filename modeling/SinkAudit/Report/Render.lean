import SinkAudit.Report.Basic
import SinkAudit.Report.Markdown
import SinkAudit.Report.Sarif
import SinkAudit.Text.Rows
import SinkAudit.Word

/-!
# Printing a report

A report is printed as a table, as a JSON value, as Markdown or as a SARIF log.

The table has one line for each finding, the most severe first.  A suggested fix is shown by its first
row, cut after fifty characters; dots say that there is more.  Below the findings stands the number of
calls, which is a sum of words: a report in which it is no word has no table.
-/

namespace SinkAudit.Report.Console

/-- The number of characters of a fix that are shown. -/
def previewWidth : Nat := 50

/-- The start of a fix. -/
def preview (fix : String) : String :=
  match Text.rows fix with
  | [] => ""
  | first :: rest =>
    if previewWidth < first.length || !rest.isEmpty then
      String.ofList (first.toList.take previewWidth) ++ "..."
    else first

/-- A severity in brackets, in a column of ten. -/
def tag : Severity → String
  | .critical => "[CRITICAL]"
  | .high => "[HIGH]    "
  | .medium => "[MEDIUM]  "
  | .low => "[LOW]     "

/-- The name of the file and the line. -/
def location (c : Candidate) : String :=
  (Path.fileName? c.file).getD c.file ++ ":" ++ toString c.line

/-- The line of a finding. -/
def row (f : Finding) : String :=
  "  " ++ tag f.severity ++ " " ++ Text.padRight 40 f.candidate.vulnName ++ " " ++
    Text.padRight 28 (location f.candidate) ++ " " ++ preview f.fix ++ "\n"

/-- The lines above the findings. -/
def header (findings candidates : Nat) : String :=
  "\n  " ++ toString findings ++
    " confirmed vulnerabilit" ++ (if findings = 1 then "y" else "ies") ++
    " out of " ++ toString candidates ++ " candidate(s):\n\n" ++
    "  " ++ Text.padRight 10 "SEVERITY" ++ " " ++ Text.padRight 40 "TYPE" ++ " " ++
    Text.padRight 28 "LOCATION" ++ " FIX\n" ++
    "  " ++ Text.repeated 100 "-" ++ "\n"

/-- The lines below the findings.  The number of calls is a sum of words. -/
def footer (s : Stats) : Except Error String :=
  (Word.checked (s.classified + s.failures)).map fun calls =>
    "\n  Classifier calls: " ++ toString calls ++ " (" ++ toString s.failures ++
      " failed), cache hits: " ++ toString s.cacheHits ++ "\n\n"

/-- The report as a table. -/
def render (r : Report) : Except Error String :=
  if r.candidates = 0 then .ok "\n  No suspicious patterns found.\n\n"
  else if r.findings.isEmpty then
    .ok ("\n  " ++ toString r.candidates ++ " candidate(s) reviewed; all were false positives.\n\n")
  else
    (footer r.stats).map fun last =>
      header r.findings.length r.candidates ++ Text.concat ((bySeverity r.findings).map row) ++ last

end SinkAudit.Report.Console

namespace SinkAudit.Report

/-- The findings as a JSON text. -/
def renderFindings (findings : List Finding) : String :=
  (Json.arr (findings.map Finding.toJson)).pretty

/-- The report as a JSON value. -/
def toJson (r : Report) : Json :=
  .object [("target", .text r.target), ("scanned_at", .text r.scannedAt.toStamp),
    ("candidates", .ofNat r.candidates), ("stats", r.stats.toJson),
    ("findings", .arr (r.findings.map Finding.toJson))]

/-- The report in a printed form.  `guid` names the run in a SARIF log. -/
def render (guid : String) (r : Report) : Format → Except Error String
  | .console => Console.render r
  | .json => .ok r.toJson.pretty
  | .markdown => .ok (Markdown.render r)
  | .sarif => .ok (Sarif.render guid r)

end SinkAudit.Report

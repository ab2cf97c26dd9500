import SinkAudit.Analysis.Basic
import SinkAudit.Scan.Walk

/-!
# Audits

An audit scans a directory and judges every candidate.  If there are none, nobody is asked and the
store is not touched.
-/

namespace SinkAudit

/-- The report of an audit, the requests it made and the workspace it leaves. -/
structure Audit where
  report : Report
  calls : List Request
  disk : Workspace

/-- Audits a directory with the built-in rules. -/
def audit (w : Workspace) (root : String) (config : Config) (classifier : Classifier)
    (now : Moment) : Except Error Audit :=
  let scanner := Scanner.builtin config.scan
  match scanner.scanTree w root with
  | .error e => .error e
  | .ok candidates =>
    let report (o : Outcome) : Report :=
      { target := (w.canonical root).toOption.getD root
        scannedAt := now
        candidates := candidates.length
        findings := o.findings
        stats := o.stats
        rules := scanner.catalog.infos }
    if candidates.isEmpty then .ok ⟨report ⟨[], {}⟩, [], w⟩
    else
      let session : Session := { store := .ofConfig w config.cache, disk := w }
      let (o, s) := session.analyze ⟨classifier, scanner.catalog⟩ candidates
      .ok ⟨report o, s.calls, s.disk⟩

end SinkAudit

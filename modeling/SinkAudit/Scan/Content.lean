import SinkAudit.Config.Basic
import SinkAudit.Rule.Builtin
import SinkAudit.Scan.Candidate
import SinkAudit.Scan.Window

/-!
# Scanning a text

Every line is judged by itself: comments and minified lines are passed over, and the first rule of
the catalog that matches claims the line.  A line is trimmed before it is passed over or shown, but
patterns are matched against the line as it stands.

A line that is claimed is shown with the window around it, and there may be no such window
(`Scan.contextWindow`).  Then there are no candidates of the text at all.

* `Scanner`: a catalog and the settings that matter here.
* `Scanner.scanLine`: the candidate of one line among the lines of its text.
* `Scanner.scanContent`: the candidates of a text in the order of their lines.
-/

namespace SinkAudit

/-- A catalog of rules with the settings for using it. -/
structure Scanner where
  catalog : Catalog
  config : ScanConfig

namespace Scanner

/-- The scanner for the built-in rules that are not disabled. -/
def builtin (config : ScanConfig) : Scanner :=
  ⟨Catalog.builtin.without config.disabledRules, config⟩

/-- Whether a trimmed line is passed over. -/
def skips (s : Scanner) (trimmed : String) : Bool :=
  Scan.Line.isComment trimmed || Scan.Line.isMinified trimmed s.config.maxLineLength

/-- The candidate of the line with a given index among all lines. -/
def scanLine (s : Scanner) (path : String) (lines : List String) (index : Nat) (line : String) :
    Except Error (Option Candidate) :=
  let trimmed := Text.trim line
  if s.skips trimmed then .ok none
  else
    match s.catalog.matchLine line with
    | none => .ok none
    | some (rule, pattern) =>
      (Scan.contextWindow lines index s.config.contextLines).map fun snippet =>
        some ⟨path, index + 1, rule.id, rule.name, snippet, pattern, trimmed⟩

/-- The candidates of a text. -/
def scanContent (s : Scanner) (path content : String) : Except Error (List Candidate) :=
  let lines := Scan.Line.split content
  gather (fun l => (s.scanLine path lines l.2 l.1).map Option.toList) lines.zipIdx

end Scanner

end SinkAudit

import SinkAudit.Proofs.Scan.Content

/-!
# Trimmed lines

Whether a line is passed over is judged on the trimmed line, but rules are matched against the line as it
stands.  The scan as it is meant makes both decisions on the trimmed line (`Scanner.scanTrimmed`).  The
two are the same as long as no pattern needs a blank at the end of a match or at its front.

The built-in rules are like that, whichever of them are left out: each of their patterns begins with a
printing character, and one that may reach into blanks at its end may also stop before them.  A catalog
with a pattern such as `\s+eval` would not be.

* `Scanner.scanTrimmed`: the scan that looks at trimmed lines only.
* `Scanner.scanContent_eq_scanTrimmed`: when the two scans are the same.
* `Scanner.trimmed_line_decides`: the built-in rules.
-/

namespace SinkAudit.Scanner

open Scan.Line (split)

/-- The candidates of a text, where every decision on a line is made on the trimmed line. -/
def scanTrimmed (s : Scanner) (path content : String) : Except Error (List Candidate) :=
  gather (fun l => (s.scanLine path (split content) l.2 (Text.trim l.1)).map Option.toList)
    (split content).zipIdx

variable {s : Scanner}

/-- Rules that find the same in a line and in the trimmed line may be matched against either. -/
theorem scanContent_eq_scanTrimmed
    (hs : ∀ line, s.catalog.matchLine (Text.trim line) = s.catalog.matchLine line)
    (path content : String) : s.scanContent path content = s.scanTrimmed path content := by
  have hline : ∀ index line, s.scanLine path (split content) index (Text.trim line) =
      s.scanLine path (split content) index line := by
    intro index line
    rw [scanLine, scanLine, Text.trim_trim, hs]
  simp only [scanContent, scanTrimmed, hline]

/-- **The trimmed line decides.**  The built-in rules, whichever of them are left out, find the same rule
and the same pattern in a line and in its trimmed form, or nothing in both.  So the scan, which matches
lines as they stand, finds what the scan of trimmed lines finds, or fails with it. -/
theorem trimmed_line_decides (ids : List String) :
    (∀ line, (Catalog.builtin.without ids).matchLine line =
      (Catalog.builtin.without ids).matchLine (Text.trim line)) ∧
    ∀ (config : ScanConfig) (path content : String),
      (Scanner.mk (Catalog.builtin.without ids) config).scanContent path content =
        (Scanner.mk (Catalog.builtin.without ids) config).scanTrimmed path content := by
  have htrim := Catalog.matchLine_trim ids
  -- From here on the rules themselves do not matter.
  generalize Catalog.builtin.without ids = catalog at htrim ⊢
  exact ⟨fun line => (htrim line).symm, fun config path content =>
    scanContent_eq_scanTrimmed (s := ⟨catalog, config⟩) htrim path content⟩

end SinkAudit.Scanner

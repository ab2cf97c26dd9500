import SinkAudit.Digest.Sha256
import SinkAudit.Json.Printer
import SinkAudit.Json.Record

/-!
# Candidates

A candidate is a line that a rule has claimed and nobody has judged yet.  Its *signature* is a
digest of the rule and of the window around the line.  The file and the line number are left out of
the digest by name; the window shows line numbers, so they enter through it.
-/

namespace SinkAudit

/-- A line claimed by a rule. -/
structure Candidate where
  file : String
  /-- The number of the line, counted from one. -/
  line : Nat
  ruleId : String
  vulnName : String
  /-- The window around the line. -/
  snippet : String
  /-- The text of the pattern that matched. -/
  pattern : String
  /-- The line without blanks at its ends. -/
  rawLine : String
  deriving DecidableEq, Repr, Inhabited

/-- The digest under which a verdict on `content` by a rule is kept. -/
def signature (ruleId content : String) : String :=
  Digest.hex (Digest.sha256 (ruleId.toUTF8.toList ++ [0x1f] ++ content.toUTF8.toList))

namespace Candidate

/-- The digest under which the verdict on a candidate is kept. -/
def signature (c : Candidate) : String :=
  SinkAudit.signature c.ruleId c.snippet

/-- The file and the line, for display. -/
def location (c : Candidate) : String :=
  c.file ++ ":" ++ toString c.line

/-- The names of the fields in their order. -/
def fieldNames : List String :=
  ["file", "line", "rule_id", "vuln_name", "code_snippet", "matched_pattern", "raw_line"]

/-- The fields of a candidate as members of an object. -/
def members (c : Candidate) : List (String × Json) :=
  [("file", .text c.file), ("line", .ofNat c.line), ("rule_id", .text c.ruleId),
   ("vuln_name", .text c.vulnName), ("code_snippet", .text c.snippet),
   ("matched_pattern", .text c.pattern), ("raw_line", .text c.rawLine)]

/-- A candidate as a JSON value. -/
def toJson (c : Candidate) : Json :=
  .object c.members

/-- The candidate whose fields a record gives. -/
def ofRecord? (r : Record) : Option Candidate := do
  let file ← r.required "file" Json.string?
  let line ← r.required "line" Json.word64?
  let ruleId ← r.required "rule_id" Json.string?
  let vulnName ← r.required "vuln_name" Json.string?
  let snippet ← r.required "code_snippet" Json.string?
  let pattern ← r.required "matched_pattern" Json.string?
  let rawLine ← r.required "raw_line" Json.string?
  return ⟨file, line, ruleId, vulnName, snippet, pattern, rawLine⟩

/-- The candidate that a JSON value is. -/
def ofJson? (v : Json) : Option Candidate :=
  (Record.ofJson? fieldNames false v).bind ofRecord?

end Candidate

end SinkAudit

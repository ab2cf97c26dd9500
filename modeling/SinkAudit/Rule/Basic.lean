import SinkAudit.Error
import SinkAudit.Pattern.Meaning
import SinkAudit.Rule.Severity

/-!
# Rules and catalogs

A rule names a class of vulnerabilities and lists the patterns that betray it.  A catalog is an
ordered list of rules with different ids.  The order is the order of preference: a line belongs to
the first rule of the catalog that has a matching pattern, by the first such pattern.

* `RuleInfo`: a rule as it is written down, with its patterns as text.
* `Rule`: a rule whose patterns have been read.
* `Catalog.ofInfos`: the catalog of a list of rules, where every pattern can be read and no id
  occurs twice.
* `Catalog.matchLine`: the rule and the pattern that claim a line.
-/

namespace SinkAudit

/-- A rule as it is written down and listed. -/
structure RuleInfo where
  id : String
  name : String
  description : String
  severity : Severity
  cwe : Option String
  patterns : List String
  deriving DecidableEq, Repr, Inhabited

/-- A pattern together with its text. -/
structure SinkPattern where
  source : String
  expr : Pattern
  deriving DecidableEq, Repr, Inhabited

/-- A rule whose patterns have been read. -/
structure Rule where
  id : String
  name : String
  description : String
  severity : Severity
  cwe : Option String
  patterns : List SinkPattern
  deriving DecidableEq, Repr, Inhabited

namespace Rule

/-- Reads the patterns of a rule in order; the first that cannot be read is reported. -/
def readPatterns (id : String) : List String → Except Error (List SinkPattern)
  | [] => .ok []
  | s :: ss =>
    match Pattern.parse? s with
    | none => .error (.invalidPattern id s)
    | some p =>
      match readPatterns id ss with
      | .error e => .error e
      | .ok ps => .ok (⟨s, p⟩ :: ps)

/-- The rule that was written down. -/
def ofInfo (i : RuleInfo) : Except Error Rule :=
  (readPatterns i.id i.patterns).map fun ps =>
    ⟨i.id, i.name, i.description, i.severity, i.cwe, ps⟩

/-- The rule as it is listed. -/
def info (r : Rule) : RuleInfo :=
  ⟨r.id, r.name, r.description, r.severity, r.cwe, r.patterns.map (·.source)⟩

/-- The text of the first pattern that matches somewhere in a line. -/
def matchingPattern (r : Rule) (line : String) : Option String :=
  (r.patterns.find? fun p => p.expr.isMatch line).map (·.source)

end Rule

/-- An ordered list of rules. -/
structure Catalog where
  rules : List Rule
  deriving DecidableEq, Repr, Inhabited

namespace Catalog

/-- The first id that already occurred before it. -/
def duplicate? : List String → List String → Option String
  | _, [] => none
  | seen, id :: ids => if seen.contains id then some id else duplicate? (id :: seen) ids

/-- The catalog of a list of rules, which may not share an id. -/
def ofRules (rules : List Rule) : Except Error Catalog :=
  match duplicate? [] (rules.map (·.id)) with
  | some id => .error (.rule id "duplicate rule id")
  | none => .ok ⟨rules⟩

/-- The rules that were written down, read in order. -/
def readRules : List RuleInfo → Except Error (List Rule)
  | [] => .ok []
  | i :: is =>
    match Rule.ofInfo i with
    | .error e => .error e
    | .ok r =>
      match readRules is with
      | .error e => .error e
      | .ok rs => .ok (r :: rs)

/-- The catalog of rules that were written down.  All patterns are read before ids are compared. -/
def ofInfos (infos : List RuleInfo) : Except Error Catalog :=
  match readRules infos with
  | .error e => .error e
  | .ok rs => ofRules rs

/-- The catalog without the rules of the given ids; the others keep their order. -/
def without (c : Catalog) (ids : List String) : Catalog :=
  ⟨c.rules.filter fun r => !ids.contains r.id⟩

/-- The rule with an id. -/
def lookup (c : Catalog) (id : String) : Except Error Rule :=
  match c.rules.find? fun r => r.id == id with
  | some r => .ok r
  | none => .error (.unknownRule id)

/-- The first rule that has a matching pattern for a line, with the first such pattern. -/
def matchLine (c : Catalog) (line : String) : Option (Rule × String) :=
  c.rules.findSome? fun r => (r.matchingPattern line).map fun p => (r, p)

/-- The rules as they are listed. -/
def infos (c : Catalog) : List RuleInfo :=
  c.rules.map Rule.info

/-- The number of rules. -/
def size (c : Catalog) : Nat :=
  c.rules.length

end Catalog

end SinkAudit

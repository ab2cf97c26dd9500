import SinkAudit.Glob.Parser
import SinkAudit.Text.Character

/-!
# Ignore rules

A row of an ignore file is a rule: a glob for paths below the directory of the file.  A rule that
begins with an exclamation mark keeps what an earlier rule ignores, so the last rule that matches
decides.  A rule without a slash holds at every depth, one with a slash only where it says, and one
that ends with a slash for directories alone.

* `IgnoreRule.ofRow?`: the rule of a row; comments, blank rows and malformed globs have none.
* `IgnoreRules.ruling`: what a list of rules says of a path.
-/

namespace SinkAudit

/-- What a rule says of a path. -/
inductive Ruling where
  | ignore
  | keep
  deriving DecidableEq, Repr

/-- A rule of an ignore file. -/
structure IgnoreRule where
  glob : Glob
  ruling : Ruling
  dirsOnly : Bool
  deriving Repr

namespace IgnoreRule

/-- A row without the blanks at its end, unless the last one is escaped. -/
def trimRow (row : List Char) : List Char :=
  match row.reverse with
  | ' ' :: '\\' :: _ => row
  | _ => Text.dropEndWhile Text.isBlank row

/-- The mark of a rule that keeps, and the mark of one that holds at the top only, with the rest. -/
def marks : List Char → Ruling × Bool × List Char
  | '\\' :: '!' :: r => (.ignore, false, '!' :: r)
  | '\\' :: '#' :: r => (.ignore, false, '#' :: r)
  | '!' :: '/' :: r => (.keep, true, r)
  | '!' :: r => (.keep, false, r)
  | '/' :: r => (.ignore, true, r)
  | r => (.ignore, false, r)

/-- Whether a rule ends with a slash, and the rule without it. -/
def dropSlash (cs : List Char) : Bool × List Char :=
  match cs.reverse with
  | '/' :: '\\' :: r => (true, r.reverse)
  | '/' :: r => (true, r.reverse)
  | _ => (false, cs)

/-- The glob text of a rule: at every depth if no slash binds it, and below a directory only if it
ends with two stars. -/
def globText (top : Bool) (cs : List Char) : List Char :=
  let cs :=
    if top || cs.contains '/' || cs == "**".toList then cs else "**/".toList ++ cs
  if "/**".toList.isSuffixOf cs then cs ++ "/*".toList else cs

/-- The rule of a row. -/
def ofRow? (row : String) : Option IgnoreRule :=
  if row.startsWith "#" then none
  else
    let cs := trimRow row.toList
    if cs.isEmpty then none
    else
      let (ruling, top, cs) := marks cs
      let (dirsOnly, cs) := dropSlash cs
      (Glob.parse? (String.ofList (globText top cs))).map (⟨·, ruling, dirsOnly⟩)

/-- Whether a rule holds for a path. -/
def applies (r : IgnoreRule) (path : String) (isDir : Bool) : Bool :=
  (!r.dirsOnly || isDir) && r.glob.isMatch path

end IgnoreRule

/-- What the last rule that holds for a path says of it. -/
def rulingOf (rules : List IgnoreRule) (path : String) (isDir : Bool) : Option Ruling :=
  (rules.reverse.find? fun r => r.applies path isDir).map (·.ruling)

end SinkAudit

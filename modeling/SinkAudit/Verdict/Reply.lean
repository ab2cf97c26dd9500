import SinkAudit.Text.Character
import SinkAudit.Verdict.Basic

/-!
# Replies

A classifier answers in prose.  The reply is expected to be one JSON object, but code fences around
it and words before and after it are forgiven.

Fence marks are removed wherever they stand, also inside strings.  If what is left is a verdict,
that is the answer; otherwise the first balanced object in it has to be one.

* `eraseAll`: a text without the occurrences of a word, taken from left to right.
* `extractObject?`: the shortest balanced object that starts at the first opening brace.
* `Verdict.ofReply`: the verdict in a reply.
-/

namespace SinkAudit

/-- Why a reply has no verdict. -/
inductive ReplyFault where
  | noObject
  | badObject
  deriving DecidableEq, Repr

namespace Reply

/-- The list without the occurrences of `word`; `skip` characters are still part of one. -/
def eraseFrom (word : List Char) : Nat → List Char → List Char
  | _, [] => []
  | skip + 1, _ :: r => eraseFrom word skip r
  | 0, c :: r =>
    if word.isPrefixOf (c :: r) then eraseFrom word (word.length - 1) r
    else c :: eraseFrom word 0 r

/-- The list without the occurrences of `word`. -/
def eraseAll (word s : List Char) : List Char :=
  eraseFrom word 0 s

/-- The reply without code fences and without blanks at its ends. -/
def stripFences (s : List Char) : List Char :=
  Text.trimChars (eraseAll ['`', '`', '`'] (eraseAll ['`', '`', '`', 'j', 's', 'o', 'n'] s))

/-- Where a scan for the end of an object is: how many braces are open, and whether the next
character is inside a string, or follows a backslash there. -/
structure BraceState where
  depth : Nat
  inString : Bool
  escaped : Bool

/-- The state after one more character. -/
def BraceState.next (s : BraceState) (c : Char) : BraceState :=
  if s.escaped then { s with escaped := false }
  else if c == '\\' && s.inString then { s with escaped := true }
  else if c == '"' then { s with inString := !s.inString }
  else if s.inString then s
  else if c == '\x7b' then { s with depth := s.depth + 1 }
  else if c == '\x7d' then { s with depth := s.depth - 1 }
  else s

/-- Whether a character just read closed the last open brace. -/
def BraceState.closes (before after : BraceState) : Bool :=
  before.depth == 1 && after.depth == 0

/-- The characters up to the one that closes the last open brace. -/
def balanced? (s : BraceState) : List Char → Option (List Char)
  | [] => none
  | c :: r =>
    let t := s.next c
    if s.closes t then some [c] else (balanced? t r).map (c :: ·)

/-- The first balanced object in a text. -/
def extractObject? (s : List Char) : Option (List Char) :=
  balanced? ⟨0, false, false⟩ (s.dropWhile (· != '\x7b'))

/-- The verdict that a JSON value in a reply is.  Here the texts may be missing or `null`, and an
unknown severity counts as none. -/
def verdict? (v : Json) : Option Verdict := do
  let r ← Record.ofJson? Verdict.fieldNames false v
  let isVulnerable ← r.required "is_vulnerable" Json.bool?
  let severity ← r.defaulted "severity" (Record.orNull Json.string?) none
  let reasoning ← r.defaulted "reasoning" (Record.orNull Json.string?) none
  let fix ← r.defaulted "fix" (Record.orNull Json.string?) none
  return ⟨isVulnerable, (severity.bind Severity.ofWord?).getD Verdict.defaultSeverity,
    reasoning.getD "", fix.getD ""⟩

/-- The verdict that a JSON text in a reply is. -/
def verdictOfText? (s : List Char) : Option Verdict :=
  (Json.parse? (String.ofList s)).bind verdict?

end Reply

/-- The verdict in a reply. -/
def Verdict.ofReply (text : String) : Except ReplyFault Verdict :=
  let stripped := Reply.stripFences text.toList
  match Reply.verdictOfText? stripped with
  | some v => .ok v
  | none =>
    match Reply.extractObject? stripped with
    | none => .error .noObject
    | some s =>
      match Reply.verdictOfText? s with
      | some v => .ok v
      | none => .error .badObject

end SinkAudit

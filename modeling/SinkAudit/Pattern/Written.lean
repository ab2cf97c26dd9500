import SinkAudit.Pattern.CharClass

/-!
# The written form of a pattern

A pattern as it is written: groups, alternatives, repetitions, brackets and switches, with nothing
resolved yet.  A switch such as `(?i)` changes what comes after it, so a written character does not
say alone what it accepts.

How deeply the parts of a pattern may be nested is limited.  Every part therefore comes with its
depth (`Nested`), and a part that would be too deep is never made.
-/

namespace SinkAudit.Pattern

/-- A switch for the way a pattern is read or matches. -/
inductive Switch where
  | caseless
  | multiLine
  | dotAll
  | swapGreed
  | unicode
  | carriageReturn
  | verbose
  deriving DecidableEq, Repr

/-- Switches with their new positions. -/
abbrev Switches := List (Switch × Bool)

/-- A written character; `byte` says that it was given by two hexadecimal digits, as a byte may
be. -/
structure Letter where
  char : Char
  byte : Bool
  deriving DecidableEq, Repr

/-- The sets with an escape of one letter. -/
inductive Shorthand where
  | digit
  | blank
  | word
  deriving DecidableEq, Repr

/-- A set named by a property of characters, perhaps with a value of the property. -/
structure PropertyName where
  name : String
  value : Option String
  deriving DecidableEq, Repr

/-- A written test of a point of the text. -/
inductive Anchor where
  | lineStart
  | lineEnd
  | textStart
  | textEnd
  | boundary
  | noBoundary
  | wordStart
  | wordEnd
  | noWordBefore
  | noWordAfter
  deriving DecidableEq, Repr

/-- An operation between two sets inside brackets. -/
inductive SetOp where
  | inter
  | diff
  | symmDiff
  deriving DecidableEq, Repr

/-- What stands between brackets. -/
inductive ClassItem where
  | nothing
  | letter (l : Letter)
  | range (first last : Letter)
  | shorthand (s : Shorthand) (negated : Bool)
  | property (p : PropertyName) (negated : Bool)
  | ascii (s : CharClass) (negated : Bool)
  | bracket (negated : Bool) (item : ClassItem)
  | union (items : List ClassItem)
  | op (kind : SetOp) (left right : ClassItem)
  deriving Inhabited

/-- A repetition: at least `least` copies and at most `most`, as many as possible or as few. -/
structure Repetition where
  least : Nat
  most : Option Nat
  greedy : Bool
  deriving DecidableEq, Repr

/-- A written pattern. -/
inductive Written where
  | empty
  | switches (s : Switches)
  | letter (l : Letter)
  | dot
  | anchor (a : Anchor)
  | shorthand (s : Shorthand) (negated : Bool)
  | property (p : PropertyName) (negated : Bool)
  | bracket (negated : Bool) (item : ClassItem)
  | repetition (r : Repetition) (s : Written)
  | group (capture : Option Nat) (switches : Switches) (s : Written)
  | alternation (branches : List Written)
  | concat (items : List Written)
  deriving Inhabited

/-- A part of a pattern with its depth. -/
structure Nested (α : Type) where
  part : α
  depth : Nat

/-- How deeply parts may be nested. -/
def maxDepth : Nat := 250

namespace Nested

/-- A part that has no parts. -/
def leaf (part : α) : Nested α := ⟨part, 0⟩

/-- A part around another. -/
def around? (inner : Nested α) (make : α → β) : Option (Nested β) :=
  if inner.depth < maxDepth then some ⟨make inner.part, inner.depth + 1⟩ else none

/-- A part made of many, given latest first. -/
def ofList? (make : List α → α) (parts : List (Nested α)) : Option (Nested α) :=
  around? ⟨parts.reverse.map (·.part), parts.foldl (fun d p => max d p.depth) 0⟩ make

end Nested

/-- The parts of a pattern one after the other, given latest first. -/
def concat? : List (Nested Written) → Option (Nested Written)
  | [] => some (.leaf .empty)
  | [p] => some p
  | ps => Nested.ofList? .concat ps

/-- Branches of a pattern, given latest first. -/
def alternation? : List (Nested Written) → Option (Nested Written)
  | [] => some (.leaf .empty)
  | [p] => some p
  | ps => Nested.ofList? .alternation ps

/-- What stands between brackets, given latest first. -/
def union? : List (Nested ClassItem) → Option (Nested ClassItem)
  | [] => some (.leaf .nothing)
  | [p] => some p
  | ps => Nested.ofList? .union ps

end SinkAudit.Pattern

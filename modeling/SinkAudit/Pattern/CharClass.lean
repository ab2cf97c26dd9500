import SinkAudit.Text.Character

/-!
# Character classes

The set of characters that one place of a pattern accepts, as closed ranges of code points.  The
ranges stand in increasing order and never touch, so that a set has one form only.

The code points between `lastBelow` and `firstAbove` are no characters.  The two are neighbours: a
complement may reach from one side to the other, but no range begins or ends in between.

* `CharClass.contains`: membership.
* `CharClass.union`, `compl`, `inter`, `diff`, `symmDiff`: the operations on sets.
* `CharClass.named?`: the ASCII sets that have a name.
-/

namespace SinkAudit

/-- A set of characters. -/
structure CharClass where
  ranges : List (Nat × Nat)
  deriving DecidableEq, Repr, Inhabited

namespace CharClass

/-! ## Code points -/

/-- The last character before the gap. -/
def lastBelow : Nat := 0xD7FF

/-- The first character behind the gap. -/
def firstAbove : Nat := 0xE000

/-- The last character. -/
def lastCode : Nat := 0x10FFFF

/-- The code point of the next character. -/
def next (n : Nat) : Nat := if n = lastBelow then firstAbove else n + 1

/-- The code point of the character before. -/
def prev (n : Nat) : Nat := if n = firstAbove then lastBelow else n - 1

/-! ## Membership -/

/-- Whether a class contains a character. -/
def contains (s : CharClass) (c : Char) : Bool := Text.inRanges c.toNat s.ranges

/-- The empty class. -/
def empty : CharClass := ⟨[]⟩

/-- The class of all characters. -/
def full : CharClass := ⟨[(0, lastCode)]⟩

/-- The class of the characters between two. -/
def range (first last : Char) : CharClass := ⟨[(first.toNat, last.toNat)]⟩

/-- The class of one character. -/
def single (c : Char) : CharClass := range c c

/-- The blank characters. -/
def blank : CharClass := ⟨Text.blankRanges⟩

/-! ## Operations -/

/-- Two lists of ranges as one, by their first code points; `fuel` is at least the number of
ranges. -/
def merge : Nat → List (Nat × Nat) → List (Nat × Nat) → List (Nat × Nat)
  | 0, _, _ => []
  | _ + 1, [], bs => bs
  | _ + 1, as, [] => as
  | fuel + 1, a :: as, b :: bs =>
    if a.1 ≤ b.1 then a :: merge fuel as (b :: bs) else b :: merge fuel (a :: as) bs

/-- Joins ranges that overlap or touch; `current` comes first. -/
def joinFrom (current : Nat × Nat) : List (Nat × Nat) → List (Nat × Nat)
  | [] => [current]
  | r :: rs =>
    if r.1 ≤ current.2 + 1 then joinFrom (current.1, max current.2 r.2) rs
    else current :: joinFrom r rs

/-- Joins ranges that overlap or touch. -/
def join : List (Nat × Nat) → List (Nat × Nat)
  | [] => []
  | r :: rs => joinFrom r rs

/-- The characters of either class. -/
def union (a b : CharClass) : CharClass :=
  match a.ranges, b.ranges with
  | [], _ => b
  | _, [] => a
  | as, bs => ⟨join (merge (as.length + bs.length) as bs)⟩

/-- The ranges between ranges, from a code point on. -/
def gaps (start : Nat) : List (Nat × Nat) → List (Nat × Nat)
  | [] => if start ≤ lastCode then [(start, lastCode)] else []
  | r :: rs =>
    if start < r.1 ∧ start ≤ prev r.1 then (start, prev r.1) :: gaps (next r.2) rs
    else gaps (next r.2) rs

/-- The characters that a class does not contain. -/
def compl (a : CharClass) : CharClass := ⟨gaps 0 a.ranges⟩

/-- The characters of both classes. -/
def inter (a b : CharClass) : CharClass := (a.compl.union b.compl).compl

/-- The characters of the first class alone. -/
def diff (a b : CharClass) : CharClass := (a.compl.union b).compl

/-- The characters of one class but not of both. -/
def symmDiff (a b : CharClass) : CharClass := (a.union b).diff (a.inter b)

/-- Puts a range before the first that does not begin earlier. -/
def insert (r : Nat × Nat) : List (Nat × Nat) → List (Nat × Nat)
  | [] => [r]
  | s :: ss => if r.1 ≤ s.1 then r :: s :: ss else s :: insert r ss

/-- The class of ranges of code points in any order. -/
def ofCodes (rs : List (Nat × Nat)) : CharClass :=
  ⟨join (rs.foldr insert [])⟩

/-- The class of ranges of characters in any order. -/
def ofRanges (rs : List (Char × Char)) : CharClass :=
  ofCodes (rs.map fun r => (r.1.toNat, r.2.toNat))

/-! ## Kinds of classes -/

/-- The only character of a class that has just one. -/
def only? (s : CharClass) : Option Char :=
  match s.ranges with
  | [r] => if r.1 = r.2 then some (Char.ofNat r.1) else none
  | _ => none

/-- Whether all characters of a class are ASCII characters. -/
def isAscii (s : CharClass) : Bool :=
  s.ranges.all fun r => r.2 < 0x80

/-- Everything but the line feed: what a dot stands for. -/
def dot : CharClass := compl (single '\n')

/-- The ASCII classes that can be named inside brackets. -/
def named? : String → Option CharClass
  | "alnum" => some (ofRanges [('0', '9'), ('A', 'Z'), ('a', 'z')])
  | "alpha" => some (ofRanges [('A', 'Z'), ('a', 'z')])
  | "ascii" => some (range '\x00' '\x7f')
  | "blank" => some (ofRanges [('\t', '\t'), (' ', ' ')])
  | "cntrl" => some (ofRanges [('\x00', '\x1f'), ('\x7f', '\x7f')])
  | "digit" => some (range '0' '9')
  | "graph" => some (range '!' '~')
  | "lower" => some (range 'a' 'z')
  | "print" => some (range ' ' '~')
  | "punct" => some (ofRanges [('!', '/'), (':', '@'), ('[', '\x60'), ('\x7b', '~')])
  | "space" => some (ofRanges [('\t', '\r'), (' ', ' ')])
  | "upper" => some (range 'A' 'Z')
  | "word" => some (ofRanges [('0', '9'), ('A', 'Z'), ('_', '_'), ('a', 'z')])
  | "xdigit" => some (ofRanges [('0', '9'), ('A', 'F'), ('a', 'f')])
  | _ => none

end CharClass

end SinkAudit

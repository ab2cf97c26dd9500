import SinkAudit.Pattern.WordClass

/-!
# Patterns

Regular expressions with tests of the place, and the search for a part of a text that one matches.

## Search

The search reads the text once, from left to right.  It keeps the pattern with marks on it: a
character place of the pattern is marked when what has been read can end there (`Marked`).  A
character moves the marks (`Marked.shift`): a mark leaves the place where it is and goes to the
places that can come next, if they accept the character.  At every point of the text a mark enters
the pattern from the front, so the match may begin anywhere, and the text has a match as soon as a
mark can leave at the end (`Marked.isFinal`).

The pattern never grows, so no text makes the search slow.  Each node knows whether there is a mark
below it, and parts without marks are not looked at.

## Tests of the place

An anchor or a word boundary is no character, but a condition on the point between two characters.
`TextPoint` holds the two neighbours of a point, and all functions are told the place.
-/

namespace SinkAudit

/-- A test of a point of the text. -/
inductive Look where
  | textStart
  | textEnd
  /-- The start of a line, after a line feed. -/
  | lineStart
  /-- The end of a line, before a line feed. -/
  | lineEnd
  /-- The start of a line, where a carriage return and a line feed may end lines. -/
  | rowStart
  /-- The end of a line, where a carriage return and a line feed may end lines. -/
  | rowEnd
  /-- A test of whether words begin or end here, for all scripts or for ASCII words only. -/
  | boundary (ascii : Bool)
  | noBoundary (ascii : Bool)
  | wordStart (ascii : Bool)
  | wordEnd (ascii : Bool)
  /-- No word goes on to the left. -/
  | noWordBefore (ascii : Bool)
  /-- No word goes on to the right. -/
  | noWordAfter (ascii : Bool)
  deriving DecidableEq, Repr, Inhabited

/-- A regular expression. -/
inductive Pattern where
  | empty
  | one (s : CharClass)
  | look (l : Look)
  | seq (p q : Pattern)
  | alt (p q : Pattern)
  /-- One copy or more. -/
  | loop (p : Pattern)
  deriving DecidableEq, Repr, Inhabited

/-- A point of the text: the characters on its two sides, where there are any. -/
structure TextPoint where
  before : Option Char
  after : Option Char
  deriving DecidableEq, Repr

namespace TextPoint

/-- Whether a neighbour is a character of a word. -/
def isWordSide (ascii : Bool) : Option Char → Bool
  | none => false
  | some c => if ascii then CharClass.isAsciiWord c else CharClass.isWord c

/-- Whether a test holds at a point. -/
def satisfies (h : TextPoint) : Look → Bool
  | .textStart => h.before.isNone
  | .textEnd => h.after.isNone
  | .lineStart => h.before.isNone || h.before == some '\n'
  | .lineEnd => h.after.isNone || h.after == some '\n'
  | .rowStart =>
    h.before.isNone || h.before == some '\n' || (h.before == some '\r' && h.after != some '\n')
  | .rowEnd =>
    h.after.isNone || h.after == some '\r' || (h.after == some '\n' && h.before != some '\r')
  | .boundary a => isWordSide a h.before != isWordSide a h.after
  | .noBoundary a => isWordSide a h.before == isWordSide a h.after
  | .wordStart a => !isWordSide a h.before && isWordSide a h.after
  | .wordEnd a => isWordSide a h.before && !isWordSide a h.after
  | .noWordBefore a => !isWordSide a h.before
  | .noWordAfter a => !isWordSide a h.after

end TextPoint

namespace Pattern

/-- Whether a pattern matches the empty text at a point. -/
def nullable (h : TextPoint) : Pattern → Bool
  | empty => true
  | one _ => false
  | look l => h.satisfies l
  | seq p q => p.nullable h && q.nullable h
  | alt p q => p.nullable h || q.nullable h
  | loop p => p.nullable h

/-! ## Lists of patterns -/

/-- Neighbours in a list, joined two by two; `done` are those before, latest first. -/
def pairUp (join : Pattern → Pattern → Pattern) (done : List Pattern) : List Pattern → List Pattern
  | [] => done.reverse
  | [p] => (p :: done).reverse
  | p :: q :: r => pairUp join (join p q :: done) r

/-- A list of patterns joined to a tree; every round halves the list, so that the tree is as flat as
it can be.  `fuel` is at least the number of rounds. -/
def joinAll (join : Pattern → Pattern → Pattern) (unit : Pattern) : Nat → List Pattern → Pattern
  | _, [] => unit
  | _, [p] => p
  | 0, p :: r => r.foldl join p
  | fuel + 1, p :: q :: r => joinAll join unit fuel (pairUp join [] (p :: q :: r))

/-- The patterns one after the other. -/
def seqAll (ps : List Pattern) : Pattern := joinAll seq empty ps.length ps

/-- A pattern that matches nothing. -/
def never : Pattern := one .empty

/-- Any one of the patterns. -/
def altAll (ps : List Pattern) : Pattern := joinAll alt never ps.length ps

/-- A pattern or nothing. -/
def opt (p : Pattern) : Pattern := alt p empty

/-- Any number of copies. -/
def star (p : Pattern) : Pattern := opt (loop p)

/-- At least `least` copies of a pattern and at most `most`, where no bound means any number. -/
def times (p : Pattern) (least : Nat) : Option Nat → Pattern
  | some most => seqAll (List.replicate least p ++ List.replicate (most - least) (opt p))
  | none =>
    match least with
    | 0 => star p
    | n + 1 => seqAll (List.replicate n p ++ [loop p])

end Pattern

/-! ## Marks -/

/-- A pattern with marks on its character places.  A node with parts says whether there is a mark in
one of them. -/
inductive Marked where
  | empty
  | one (s : CharClass) (mark : Bool)
  | look (l : Look)
  | seq (marks : Bool) (p q : Marked)
  | alt (marks : Bool) (p q : Marked)
  | loop (marks : Bool) (p : Marked)
  deriving DecidableEq, Repr, Inhabited

namespace Marked

/-- The pattern without any mark. -/
def ofPattern : Pattern → Marked
  | .empty => empty
  | .one s => one s false
  | .look l => look l
  | .seq p q => seq false (ofPattern p) (ofPattern q)
  | .alt p q => alt false (ofPattern p) (ofPattern q)
  | .loop p => loop false (ofPattern p)

/-- Whether there is a mark. -/
def hasMark : Marked → Bool
  | empty => false
  | one _ mark => mark
  | look _ => false
  | seq marks _ _ => marks
  | alt marks _ _ => marks
  | loop marks _ => marks

/-- Whether the pattern matches the empty text at a point. -/
def nullable (h : TextPoint) : Marked → Bool
  | empty => true
  | one _ _ => false
  | look l => h.satisfies l
  | seq _ p q => p.nullable h && q.nullable h
  | alt _ p q => p.nullable h || q.nullable h
  | loop _ p => p.nullable h

/-- Whether a mark can leave at the end without a further character. -/
def isFinal (h : TextPoint) : Marked → Bool
  | empty => false
  | one _ mark => mark
  | look _ => false
  | seq marks p q => marks && (q.isFinal h || (p.hasMark && q.nullable h && p.isFinal h))
  | alt marks p q => marks && (p.isFinal h || q.isFinal h)
  | loop marks p => marks && p.isFinal h

/-- The marks after a character that is read at a point; `enter` says that one comes from the
front. -/
def shift (h : TextPoint) (c : Char) : Bool → Marked → Marked
  | _, empty => empty
  | enter, one s _ => one s (enter && s.contains c)
  | _, look l => look l
  | enter, seq marks p q =>
    if enter || marks then
      let p' := p.shift h c enter
      let q' := q.shift h c ((enter && p.nullable h) || p.isFinal h)
      seq (p'.hasMark || q'.hasMark) p' q'
    else seq marks p q
  | enter, alt marks p q =>
    if enter || marks then
      let p' := p.shift h c enter
      let q' := q.shift h c enter
      alt (p'.hasMark || q'.hasMark) p' q'
    else alt marks p q
  | enter, loop marks p =>
    if enter || marks then
      let p' := p.shift h c (enter || p.isFinal h)
      loop p'.hasMark p'
    else loop marks p

/-- Whether a match ends at a point or later, where one may begin at any point. -/
def searchFrom (p : Marked) (before : Option Char) : List Char → Bool
  | [] => p.nullable ⟨before, none⟩ || p.isFinal ⟨before, none⟩
  | c :: r =>
    let h : TextPoint := ⟨before, some c⟩
    p.nullable h || p.isFinal h || searchFrom (p.shift h c true) (some c) r

/-- Whether what is left of a text takes a mark to the end exactly. -/
def endsAfter (p : Marked) (before : Option Char) : List Char → Bool
  | [] => p.isFinal ⟨before, none⟩
  | c :: r => p.hasMark && endsAfter (p.shift ⟨before, some c⟩ c false) (some c) r

end Marked

namespace Pattern

/-- Whether the pattern matches somewhere in the text. -/
def isMatch (p : Pattern) (text : String) : Bool :=
  (Marked.ofPattern p).searchFrom none text.toList

/-- Whether the pattern matches the whole text. -/
def isWholeMatch (p : Pattern) : List Char → Bool
  | [] => p.nullable ⟨none, none⟩
  | c :: r => ((Marked.ofPattern p).shift ⟨none, some c⟩ c true).endsAfter (some c) r

end Pattern

end SinkAudit

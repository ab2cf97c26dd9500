import SinkAudit.Pattern.Budget
import SinkAudit.Pattern.Expr
import SinkAudit.Pattern.LetterCase
import SinkAudit.Pattern.Property
import SinkAudit.Pattern.Reader

/-!
# The meaning of a written pattern

What a written character, class or anchor accepts depends on the switches at its place.  A switch
holds to the end of the group that it stands in, and so also for the branches that follow.

Without `unicode`, classes are those of bytes.  A pattern matches whole characters only, so a class
that would contain a byte beyond ASCII is refused then.

* `ClassItem.chars?`: the characters between brackets.
* `Written.resolve?`: the simplified pattern.
* `parse?`: the pattern of a text, which has to be one that can be read, that has a meaning, and whose
  matching machine is not too large.
-/

namespace SinkAudit.Pattern

/-- The positions of the switches. -/
structure Mode where
  caseless : Bool := false
  multiLine : Bool := false
  dotAll : Bool := false
  swapGreed : Bool := false
  unicode : Bool := true
  carriageReturn : Bool := false

namespace Mode

/-- Moves one switch. -/
def move (m : Mode) (s : Switch × Bool) : Mode :=
  match s.1 with
  | .caseless => { m with caseless := s.2 }
  | .multiLine => { m with multiLine := s.2 }
  | .dotAll => { m with dotAll := s.2 }
  | .swapGreed => { m with swapGreed := s.2 }
  | .unicode => { m with unicode := s.2 }
  | .carriageReturn => { m with carriageReturn := s.2 }
  | .verbose => m

/-- Moves switches. -/
def moveAll (m : Mode) (s : Switches) : Mode := s.foldl move m

/-- A class with all forms of its letters, where case does not count. -/
def fold (m : Mode) (s : CharClass) : CharClass :=
  if !m.caseless then s else if m.unicode then s.fold else s.foldAscii

/-- A class or its complement; a complement of bytes is refused. -/
def negate? (m : Mode) (negated : Bool) (s : CharClass) : Option CharClass :=
  if !negated then some s else if m.unicode then some s.compl else none

/-- The character of a letter; a byte beyond ASCII is refused. -/
def letter? (m : Mode) (l : Letter) : Option Char :=
  if !m.unicode && l.byte && 0x80 ≤ l.char.toNat then none else some l.char

/-- The character of a letter between brackets; for bytes it has to be ASCII. -/
def classLetter? (m : Mode) (l : Letter) : Option Char :=
  if !m.unicode && 0x80 ≤ l.char.toNat then none else some l.char

/-- The class of an escape of one letter. -/
def shorthand? (m : Mode) (s : Shorthand) (negated : Bool) : Option CharClass :=
  let class_ : Option CharClass :=
    match s with
    | .digit => if m.unicode then some .digit else CharClass.named? "digit"
    | .blank => if m.unicode then some .blank else CharClass.named? "space"
    | .word => if m.unicode then some .word else CharClass.named? "word"
  class_.bind (m.negate? negated)

/-- The class of a property, which bytes do not have. -/
def property? (m : Mode) (p : PropertyName) (negated : Bool) : Option CharClass :=
  if m.unicode then p.class?.bind fun s => m.negate? negated (m.fold s) else none

/-- What a dot stands for, which is never a byte. -/
def dot? (m : Mode) : Option CharClass :=
  if !m.unicode then none
  else if m.dotAll then some .full
  else if m.carriageReturn then some (CharClass.ofRanges [('\n', '\n'), ('\r', '\r')]).compl
  else some .dot

/-- The test that an anchor stands for. -/
def look (m : Mode) : Anchor → Look
  | .lineStart =>
    if !m.multiLine then .textStart else if m.carriageReturn then .rowStart else .lineStart
  | .lineEnd =>
    if !m.multiLine then .textEnd else if m.carriageReturn then .rowEnd else .lineEnd
  | .textStart => .textStart
  | .textEnd => .textEnd
  | .boundary => .boundary !m.unicode
  | .noBoundary => .noBoundary !m.unicode
  | .wordStart => .wordStart !m.unicode
  | .wordEnd => .wordEnd !m.unicode
  | .noWordBefore => .noWordBefore !m.unicode
  | .noWordAfter => .noWordAfter !m.unicode

end Mode

/-- The operation on classes. -/
def SetOp.apply : SetOp → CharClass → CharClass → CharClass
  | .inter => .inter
  | .diff => .diff
  | .symmDiff => .symmDiff

mutual

/-- The characters between brackets. -/
def ClassItem.chars? (m : Mode) : ClassItem → Option CharClass
  | .nothing => some .empty
  | .letter l => (m.classLetter? l).map CharClass.single
  | .range a b =>
    match m.classLetter? a, m.classLetter? b with
    | some a, some b => some (.range a b)
    | _, _ => none
  | .shorthand s negated => m.shorthand? s negated
  | .property p negated => m.property? p negated
  | .ascii s negated => m.negate? negated (m.fold s)
  | .bracket negated item => (item.chars? m).bind fun s => m.negate? negated (m.fold s)
  | .union items => (ClassItem.ranges? m [] items).map CharClass.ofCodes
  | .op kind left right =>
    match left.chars? m, right.chars? m with
    | some a, some b => some (kind.apply (m.fold a) (m.fold b))
    | _, _ => none

/-- The ranges of items; `done` are those of the items before. -/
def ClassItem.ranges? (m : Mode) (done : List (Nat × Nat)) :
    List ClassItem → Option (List (Nat × Nat))
  | [] => some done
  | i :: is =>
    match i.chars? m with
    | some s => ClassItem.ranges? m (s.ranges ++ done) is
    | none => none

end

/-- A character, in all its forms where case does not count. -/
def Mode.charExpr (m : Mode) (c : Char) : Expr :=
  if !m.caseless then .char c
  else if m.unicode || c.toNat < 0x80 then .ofClass (m.fold (.single c))
  else .char c

mutual

/-- The simplified pattern, and the positions of the switches behind it. -/
def Written.resolve? (m : Mode) : Written → Option (Expr × Mode)
  | .empty => some (.empty, m)
  | .switches s => some (.empty, m.moveAll s)
  | .letter l => (m.letter? l).map fun c => (m.charExpr c, m)
  | .dot => m.dot?.map fun s => (.ofClass s, m)
  | .anchor a => some (.look (m.look a), m)
  | .shorthand s negated => (m.shorthand? s negated).map fun s => (.ofClass s, m)
  | .property p negated => (m.property? p negated).map fun s => (.ofClass s, m)
  | .bracket negated item =>
    ((item.chars? m).bind fun s => m.negate? negated (m.fold s)).map fun s => (.ofClass s, m)
  | .repetition r w =>
    (w.resolve? m).map fun (e, m') => (.repeated r.least r.most (r.greedy != m'.swapGreed) e, m')
  | .group capture s w =>
    (w.resolve? (m.moveAll s)).map fun (e, _) =>
      match capture with
      | some i => (.capture i e, m)
      | none => (e, m)
  | .alternation ws => (Written.resolveAll? m [] ws).map fun (es, m') => (.choiceOf es, m')
  | .concat ws => (Written.resolveAll? m [] ws).map fun (es, m') => (.sequence es, m')

/-- The simplified patterns of parts, each read with the switches that the part before leaves; `done`
are those before, latest first. -/
def Written.resolveAll? (m : Mode) (done : List Expr) :
    List Written → Option (List Expr × Mode)
  | [] => some (done.reverse, m)
  | w :: ws =>
    match w.resolve? m with
    | some (e, m') => Written.resolveAll? m' (e :: done) ws
    | none => none

end

/-! ## The pattern of a text -/

/-- The simplified pattern of a text. -/
def expr? (text : String) : Option Expr := do
  let written ← Written.parse? text.toList
  let (e, _) ← written.resolve? {}
  if e.fits then some e else none

/-- The pattern of a text; none if the text is no pattern. -/
def parse? (text : String) : Option Pattern :=
  (expr? text).map (·.toPattern)

end SinkAudit.Pattern

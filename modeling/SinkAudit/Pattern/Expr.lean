import SinkAudit.Pattern.Basic

/-!
# Simplified patterns

A pattern in which all switches have been applied.  The functions that build one simplify at once:
neighbouring characters form one literal, nested sequences and choices are flattened, a choice
between characters is a class, and what all branches begin with is taken out in front.

* `Expr.ofClass`, `Expr.repeated`, `Expr.sequence`, `Expr.choice`: the building functions.
* `Expr.isBlank`, `Expr.isSolid`: whether only the empty text matches, or never the empty text.
* `Expr.toPattern`: the pattern to search with.
-/

namespace SinkAudit

/-- A simplified pattern. -/
inductive Expr where
  | empty
  | literal (s : List Char)
  | set (s : CharClass)
  | look (l : Look)
  | repetition (least : Nat) (most : Option Nat) (greedy : Bool) (e : Expr)
  | capture (index : Nat) (e : Expr)
  | concat (es : List Expr)
  | choice (es : List Expr)
  deriving Inhabited

namespace Expr

mutual

/-- Whether two patterns are the same. -/
def same : Expr → Expr → Bool
  | empty, empty => true
  | literal s, literal t => s == t
  | set s, set t => s == t
  | look l, look m => l == m
  | repetition a b g e, repetition a' b' g' e' => a == a' && b == b' && g == g' && e.same e'
  | capture i e, capture i' e' => i == i' && e.same e'
  | concat es, concat es' => sameAll es es'
  | choice es, choice es' => sameAll es es'
  | _, _ => false

/-- Whether two lists of patterns are the same. -/
def sameAll : List Expr → List Expr → Bool
  | [], [] => true
  | e :: es, e' :: es' => e.same e' && sameAll es es'
  | _, _ => false

end

/-! ## Lengths -/

mutual

/-- Whether no text but the empty one matches; a class without characters does not count. -/
def isBlank : Expr → Bool
  | empty => true
  | literal s => s.isEmpty
  | set _ => false
  | look _ => true
  | repetition _ most _ e => most == some 0 || (most.isSome && e.isBlank)
  | capture _ e => e.isBlank
  | concat es => allBlank es
  | choice es => allBlank es

/-- Whether all are blank. -/
def allBlank : List Expr → Bool
  | [] => true
  | e :: es => e.isBlank && allBlank es

end

/-- What is known of the texts that match. -/
inductive Need where
  /-- There may be no text that matches. -/
  | unknown
  /-- The empty text may match. -/
  | nothing
  /-- Every text that matches has a character. -/
  | something
  deriving DecidableEq

mutual

/-- What is known of the texts that match. -/
def need : Expr → Need
  | empty => .nothing
  | literal s => if s.isEmpty then .nothing else .something
  | set s => if s.ranges.isEmpty then .unknown else .something
  | look _ => .nothing
  | repetition least _ _ e =>
    match e.need with
    | .something => if least = 0 then .nothing else .something
    | n => n
  | capture _ e => e.need
  | concat es => needAll .nothing es
  | choice es => needAny .something es

/-- What is known of a sequence, from what is known of its front. -/
def needAll (front : Need) : List Expr → Need
  | [] => front
  | e :: es =>
    match e.need with
    | .unknown => .unknown
    | .nothing => needAll front es
    | .something => needAll .something es

/-- What is known of a choice, from what is known of the first branches. -/
def needAny (front : Need) : List Expr → Need
  | [] => front
  | e :: es =>
    match e.need with
    | .unknown => .unknown
    | .nothing => needAny .nothing es
    | .something => needAny front es

end

/-- Whether no match is empty. -/
def isSolid (e : Expr) : Bool := e.need == .something

/-! ## Building -/

/-- One character. -/
def char (c : Char) : Expr := literal [c]

/-- A class; with one character it is that character. -/
def ofClass (s : CharClass) : Expr :=
  match s.only? with
  | some c => char c
  | none => set s

/-- A repetition; copies of an empty text are worth one. -/
def repeated (least : Nat) (most : Option Nat) (greedy : Bool) (e : Expr) : Expr :=
  let (least, most) :=
    if e.isBlank then (min least 1, some (min (most.getD 1) 1)) else (least, most)
  if least = 0 ∧ most = some 0 then empty
  else if least = 1 ∧ most = some 1 then e
  else repetition least most greedy e

/-- The parts of a sequence. -/
def parts : Expr → List Expr
  | empty => []
  | concat es => es
  | e => [e]

/-- Ends a literal; it and the parts before it are given latest first. -/
def endLiteral (done : List Expr) (front : List Char) : List Expr :=
  if front.isEmpty then done else literal front.reverse :: done

/-- Neighbouring literals as one; `done` are the parts before and `front` is a literal that has
begun, both latest first. -/
def mergeLiterals (done : List Expr) (front : List Char) : List Expr → List Expr
  | [] => (endLiteral done front).reverse
  | literal s :: es => mergeLiterals done (s.reverse ++ front) es
  | e :: es => mergeLiterals (e :: endLiteral done front) [] es

/-- Patterns one after the other. -/
def sequence (es : List Expr) : Expr :=
  match mergeLiterals [] [] (es.flatMap parts) with
  | [] => empty
  | [e] => e
  | es => concat es

/-- The branches of a choice. -/
def branches : Expr → List Expr
  | choice es => es
  | e => [e]

/-- The characters of branches that are characters; `done` are those before. -/
def letters? (done : List (Char × Char)) : List Expr → Option CharClass
  | [] => some (.ofRanges done)
  | literal [c] :: es => letters? ((c, c) :: done) es
  | _ => none

/-- The characters of branches that are classes; `done` are the ranges of those before. -/
def ranges? (done : List (Nat × Nat)) : List Expr → Option CharClass
  | [] => some (.ofCodes done)
  | set s :: es => ranges? (s.ranges ++ done) es
  | _ => none

/-- What two lists begin with. -/
def commonFront : List Expr → List Expr → List Expr
  | a :: as, b :: bs => if a.same b then a :: commonFront as bs else []
  | _, _ => []

/-- What the parts of all branches begin with, if all branches are sequences. -/
def sharedFront (front : List Expr) : List Expr → List Expr
  | [] => front
  | concat es :: r => if front.isEmpty then [] else sharedFront (commonFront front es) r
  | _ => []

/-- What all branches begin with. -/
def lifted : List Expr → List Expr
  | concat es :: r => sharedFront es r
  | _ => []

/-- Any one of the patterns.  `fuel` is at least the number of times that a front can be taken out. -/
def choiceWith : Nat → List Expr → Expr
  | fuel, es =>
    match es.flatMap branches with
    | [] => set .empty
    | [e] => e
    | es =>
      match letters? [] es <|> ranges? [] es with
      | some s => ofClass s
      | none =>
        match fuel, lifted es with
        | fuel + 1, f :: front =>
          let rest := es.map fun e => sequence (e.parts.drop (front.length + 1))
          sequence (f :: front ++ [choiceWith fuel rest])
        | _, _ => choice es

/-- The largest number of parts of the patterns. -/
def longest (es : List Expr) : Nat :=
  es.foldl (fun n e => max n e.parts.length) 0

/-- Any one of the patterns. -/
def choiceOf (es : List Expr) : Expr := choiceWith (longest es + 1) es

/-! ## Anchors -/

mutual

/-- Whether every match begins with a test. -/
def beginsWith (l : Look) : Expr → Bool
  | look m => l == m
  | repetition least _ _ e => least != 0 && e.beginsWith l
  | capture _ e => e.beginsWith l
  | concat es => frontBegins l es
  | choice es => allBegin l es
  | _ => false

/-- Whether the parts of a sequence begin with a test: those that are blank may stand before it. -/
def frontBegins (l : Look) : List Expr → Bool
  | [] => false
  | e :: es => e.beginsWith l || (e.isBlank && frontBegins l es)

/-- Whether all branches begin with a test. -/
def allBegin (l : Look) : List Expr → Bool
  | [] => true
  | e :: es => e.beginsWith l && allBegin l es

end

mutual

/-- Whether every match ends with a test. -/
def endsWith (l : Look) : Expr → Bool
  | look m => l == m
  | repetition least _ _ e => least != 0 && e.endsWith l
  | capture _ e => e.endsWith l
  | concat es => backEnds l es
  | choice es => allEnd l es
  | _ => false

/-- Whether the parts of a sequence end with a test: those that are blank may stand behind it. -/
def backEnds (l : Look) : List Expr → Bool
  | [] => false
  | e :: es => backEnds l es || (e.endsWith l && allBlank es)

/-- Whether all branches end with a test. -/
def allEnd (l : Look) : List Expr → Bool
  | [] => true
  | e :: es => e.endsWith l && allEnd l es

end

/-! ## Search -/

mutual

/-- The pattern to search with. -/
def toPattern : Expr → Pattern
  | empty => .empty
  | literal s => .seqAll (s.map fun c => .one (.single c))
  | set s => .one s
  | look l => .look l
  | repetition least most _ e => e.toPattern.times least most
  | capture _ e => e.toPattern
  | concat es => .seqAll (toPatterns [] es)
  | choice es => .altAll (toPatterns [] es)

/-- The patterns to search with; `done` are those before, latest first. -/
def toPatterns (done : List Pattern) : List Expr → List Pattern
  | [] => done.reverse
  | e :: es => toPatterns (e.toPattern :: done) es

end

end Expr

end SinkAudit

import SinkAudit.Pattern.Basic
import SinkAudit.Pattern.Written

/-!
# Globs

A glob describes paths.  It is a list of pieces, and each piece stands for a pattern over the bytes
of a path: a star does not reach across a slash, two stars between slashes do.

* `GlobPiece`: a piece of a glob.
* `GlobPiece.pattern`: the pattern of a piece.
* `GlobPiece.depth`: how deeply the parts of a piece are nested.
* `Glob`: a glob as the pattern that a whole path has to match.
-/

namespace SinkAudit

/-- A piece of a glob. -/
inductive GlobPiece where
  | literal (c : Char)
  /-- One byte that is not a slash. -/
  | any
  /-- Any number of bytes that are not slashes. -/
  | many
  /-- Nothing, or whole directories at the front. -/
  | anyFront
  /-- A slash and whatever follows it. -/
  | anyBack
  /-- A slash, or whole directories between two slashes. -/
  | anyBetween
  | oneOf (negated : Bool) (ranges : List (Char × Char))
  | choice (branches : List (List GlobPiece))
  deriving Repr, Inhabited

namespace GlobPiece

/-- A byte as the character with its number. -/
def byteChar (b : UInt8) : Char := Char.ofNat b.toNat

/-- The bytes of a character. -/
def charBytes (c : Char) : List Char :=
  (String.singleton c).toUTF8.toList.map byteChar

/-- The bytes of a text. -/
def textBytes (s : String) : List Char :=
  s.toUTF8.toList.map byteChar

/-- A slash. -/
def slash : Pattern := .one (.single '/')

/-- A byte that is not a slash. -/
def notSlash : Pattern := .one (.compl (.single '/'))

/-- Any bytes. -/
def anything : Pattern := .star (.one .full)

/-- The byte ranges of a range of characters: the bytes of the two ends, joined in the middle. -/
def byteRanges (r : Char × Char) : List (Char × Char) :=
  if r.1 == r.2 then (charBytes r.1).map fun b => (b, b)
  else
    let low := charBytes r.1
    let high := charBytes r.2
    low.dropLast.map (fun b => (b, b)) ++
      (match low.getLast?, high.head? with
        | some a, some b => [(a, b)]
        | _, _ => []) ++
      (high.drop 1).map fun b => (b, b)

/-- The class of ranges of characters. -/
def byteClass (negated : Bool) (ranges : List (Char × Char)) : CharClass :=
  let c := CharClass.ofRanges (ranges.flatMap byteRanges)
  if negated then .compl c else c

mutual

/-- Whether a piece stands for nothing. -/
def isVoid : GlobPiece → Bool
  | choice branches => branchesVoid branches
  | _ => false

/-- Whether pieces stand for nothing. -/
def piecesVoid : List GlobPiece → Bool
  | [] => true
  | p :: ps => p.isVoid && piecesVoid ps

/-- Whether all branches stand for nothing. -/
def branchesVoid : List (List GlobPiece) → Bool
  | [] => true
  | b :: bs => piecesVoid b && branchesVoid bs

end

mutual

/-- The pattern of a piece. -/
def pattern : GlobPiece → Pattern
  | literal c => .seqAll ((charBytes c).map fun b => .one (.single b))
  | any => notSlash
  | many => .star notSlash
  | anyFront => .alt .empty (.alt slash (.seq anything slash))
  | anyBack => .seq slash anything
  | anyBetween => .alt slash (.seq slash (.seq anything slash))
  | oneOf negated ranges => .one (byteClass negated ranges)
  | choice branches => .altAll (branchPatterns branches)

/-- The patterns of pieces. -/
def piecePatterns : List GlobPiece → List Pattern
  | [] => []
  | p :: ps => p.pattern :: piecePatterns ps

/-- The patterns of branches; an empty branch counts for nothing. -/
def branchPatterns : List (List GlobPiece) → List Pattern
  | [] => []
  | b :: bs =>
    if piecesVoid b then branchPatterns bs else .seqAll (piecePatterns b) :: branchPatterns bs

end

/-! ## Depth -/

/-- The number of parts that a piece has in a sequence. -/
def width : GlobPiece → Nat
  | literal c => (charBytes c).length
  | anyBack => 2
  | choice branches => if branchesVoid branches then 0 else 1
  | _ => 1

/-- The number of parts that pieces have in a sequence. -/
def totalWidth (ps : List GlobPiece) : Nat :=
  ps.foldl (fun n p => n + p.width) 0

/-- The number of branches that count. -/
def branchCount (bs : List (List GlobPiece)) : Nat :=
  (bs.filter fun b => !piecesVoid b).length

mutual

/-- How deeply parts are nested in a piece. -/
def depth : GlobPiece → Nat
  | literal _ => 0
  | any => 1
  | many => 2
  | anyFront => 4
  | anyBack => 1
  | anyBetween => 4
  | oneOf _ ranges => if (ranges.flatMap byteRanges).length < 2 then 1 else 2
  | choice branches =>
    match branchCount branches with
    | 0 => 0
    | 1 => branchesDepth branches + 1
    | _ => branchesDepth branches + 2

/-- How deeply parts are nested in one of the pieces. -/
def piecesDepth : List GlobPiece → Nat
  | [] => 0
  | p :: ps => max p.depth (piecesDepth ps)

/-- How deeply parts are nested in one of the branches. -/
def branchesDepth : List (List GlobPiece) → Nat
  | [] => 0
  | b :: bs =>
    max (piecesDepth b + (if totalWidth b < 2 then 0 else 1)) (branchesDepth bs)

end

end GlobPiece

/-- A glob: what a whole path has to match, and how deeply its parts are nested. -/
structure Glob where
  body : Pattern
  depth : Nat
  deriving Repr, Inhabited

namespace Glob

/-- The glob of a list of pieces; two stars alone match every path. -/
def ofPieces (ps : List GlobPiece) : Glob :=
  let body :=
    match ps with
    | [.anyFront] => GlobPiece.anything
    | _ => .seqAll (GlobPiece.piecePatterns ps)
  ⟨body, GlobPiece.piecesDepth ps + 1⟩

/-- Whether the parts of a glob are nested too deeply to match with it. -/
def isTooDeep (g : Glob) : Bool := Pattern.maxDepth < g.depth

/-- Whether a path matches a glob. -/
def isMatch (g : Glob) (path : String) : Bool :=
  g.body.isWholeMatch (GlobPiece.textBytes path)

end Glob

end SinkAudit

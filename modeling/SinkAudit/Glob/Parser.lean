import SinkAudit.Glob.Basic

/-!
# Reading globs

A glob is read character by character.  The reader keeps the pieces of the branch it is in, latest
first, and a frame for every open brace.  A bracket that is never closed stands for itself, and so
do all brackets after it.
-/

namespace SinkAudit

namespace GlobReader

/-- An open brace: the branches that are complete, and the pieces before the brace. -/
structure Frame where
  branches : List (List GlobPiece)
  before : List GlobPiece

/-- What reading a class gave. -/
inductive ClassResult where
  | closed (piece : GlobPiece) (rest : List Char)
  | unclosed
  | invalid

/-- Reads a class up to its bracket.  `first` says that nothing has been read yet, `inRange` that a
dash may join the last range and the next character. -/
def classFrom (negated first inRange : Bool) (ranges : List (Char × Char)) :
    List Char → ClassResult
  | [] => .unclosed
  | c :: r =>
    if c == ']' && !first then
      .closed (.oneOf negated ((if inRange then ('-', '-') :: ranges else ranges).reverse)) r
    else if c == '-' && !first && !inRange then classFrom negated false true ranges r
    else
      match inRange, ranges with
      | true, (low, _) :: rs =>
        if c < low then .invalid else classFrom negated false false ((low, c) :: rs) r
      | _, _ => classFrom negated false false ((c, c) :: ranges) r

/-- Reads a class after its opening bracket. -/
def classOf : List Char → ClassResult
  | '!' :: r => classFrom true true false [] r
  | '^' :: r => classFrom true true false [] r
  | r => classFrom false true false [] r

/-- The pieces with two stars that reach across slashes in place of the slash before them. -/
def addStars (star : GlobPiece) : List GlobPiece → List GlobPiece
  | .anyFront :: ps => .anyFront :: ps
  | .anyBack :: ps => .anyBack :: ps
  | _ :: ps => star :: ps
  | [] => [star]

/-- What two stars add to the pieces so far, and the rest after them. -/
def twoStars (grouped : Bool) (prev : Option Char) (sofar : List GlobPiece) (r : List Char) :
    List GlobPiece × Option Char × List Char :=
  let plain := (.many :: .many :: sofar, some '*', r)
  if sofar.isEmpty then
    match r with
    | [] => ([.anyFront], some '*', [])
    | '/' :: r => ([.anyFront], some '/', r)
    | _ => plain
  else if prev != some '/' && !(grouped && (prev == some ',' || prev == some '\x7b')) then plain
  else
    match r with
    | [] => (addStars .anyBack sofar, some '*', [])
    | '/' :: r => (addStars .anyBetween sofar, some '/', r)
    | c :: _ =>
      if grouped && (c == ',' || c == '\x7d') then (addStars .anyBack sofar, some '*', r)
      else plain

/-- Reads a glob; `fuel` bounds the number of characters, `prev` is the last one read, and
`brackets` says that a bracket still opens a class. -/
def parseFrom : Nat → Option Char → Bool → List GlobPiece → List Frame → List Char →
    Option (List GlobPiece)
  | _, _, _, sofar, [], [] => some sofar.reverse
  | _, _, _, _, _ :: _, [] => none
  | 0, _, _, _, _, _ :: _ => none
  | fuel + 1, prev, brackets, sofar, frames, c :: r =>
    if c == '?' then parseFrom fuel (some c) brackets (.any :: sofar) frames r
    else if c == '*' then
      match r with
      | '*' :: r =>
        let (sofar, prev, r) := twoStars (!frames.isEmpty) prev sofar r
        parseFrom fuel prev brackets sofar frames r
      | r => parseFrom fuel (some c) brackets (.many :: sofar) frames r
    else if c == '[' && brackets then
      match classOf r with
      | .closed p r => parseFrom fuel (some ']') brackets (p :: sofar) frames r
      | .unclosed => parseFrom fuel (some c) false (.literal c :: sofar) frames r
      | .invalid => none
    else if c == '\x7b' then parseFrom fuel (some c) brackets [] (⟨[], sofar⟩ :: frames) r
    else
      match c, frames, r with
      | '\x7d', [], _ => none
      | '\x7d', f :: fs, r =>
        parseFrom fuel (some c) brackets
          (.choice (f.branches ++ [sofar.reverse]) :: f.before) fs r
      | ',', f :: fs, r =>
        parseFrom fuel (some c) brackets []
          ({ f with branches := f.branches ++ [sofar.reverse] } :: fs) r
      | '\\', _, [] => none
      | '\\', fs, d :: r => parseFrom fuel (some d) brackets (.literal d :: sofar) fs r
      | c, fs, r => parseFrom fuel (some c) brackets (.literal c :: sofar) fs r

end GlobReader

/-- The glob that a text is. -/
def Glob.parse? (s : String) : Option Glob :=
  (GlobReader.parseFrom s.length none true [] [] s.toList).map Glob.ofPieces

end SinkAudit

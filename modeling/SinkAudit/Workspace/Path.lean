/-!
# Paths

A path is kept as the text that was given.  Its meaning is a list of parts: a slash at the start is
the root, repeated and trailing slashes count for nothing, and so does a single dot, except as the
first part of a path.
-/

namespace SinkAudit

/-- A part of a path. -/
inductive PathPart where
  | root
  | here
  | up
  | name (s : String)
  deriving DecidableEq, Repr

namespace Path

/-- The texts between slashes. -/
def pieces (sofar : List Char) : List Char → List String
  | [] => [String.ofList sofar.reverse]
  | c :: r =>
    if c == '/' then String.ofList sofar.reverse :: pieces [] r else pieces (c :: sofar) r

/-- The part for a text between slashes that is not the first. -/
def part? (s : String) : Option PathPart :=
  if s.isEmpty || s == "." then none else if s == ".." then some .up else some (.name s)

/-- The parts of a path. -/
def parts (path : String) : List PathPart :=
  match pieces [] path.toList with
  | [] => []
  | first :: rest =>
    let head : Option PathPart :=
      if first.isEmpty then (if rest.isEmpty then none else some .root)
      else if first == "." then some .here
      else part? first
    head.toList ++ rest.filterMap part?

/-- The last part of a path, if it is a name. -/
def fileName? (path : String) : Option String :=
  match (parts path).getLast? with
  | some (.name s) => some s
  | _ => none

/-- What follows the last dot of a file name; a dot that comes first starts no extension. -/
def extension? (path : String) : Option String :=
  match fileName? path with
  | none => none
  | some s =>
    let back := s.toList.reverse
    match back.dropWhile (· != '.') with
    | _ :: _ :: _ => some (String.ofList (back.takeWhile (· != '.')).reverse)
    | _ => none

/-- A path continued by a further one; an absolute path stands alone. -/
def join (dir path : String) : String :=
  if path.startsWith "/" || dir.isEmpty then path
  else if dir.endsWith "/" then dir ++ path
  else dir ++ "/" ++ path

/-- The text of a part that is not the root. -/
def partText : PathPart → String
  | .root => ""
  | .here => "."
  | .up => ".."
  | .name s => s

/-- The shortest path with the given parts. -/
def ofParts : List PathPart → String
  | [] => ""
  | [.root] => "/"
  | [p] => partText p
  | p :: ps => partText p ++ "/" ++ ofParts ps

/-- The path without its last part; the root and the empty path have none to lose. -/
def parent? (path : String) : Option String :=
  match parts path with
  | [] => none
  | [.root] => none
  | ps => some (ofParts ps.dropLast)

/-- The path with its last part replaced by a name, or with the name added where the last part is
none. -/
def withFileName (path name : String) : String :=
  match fileName? path, parent? path with
  | some _, some dir => join dir name
  | _, _ => if path.isEmpty then name else join path name

/-- How parts of different kinds are ordered. -/
def rank : PathPart → Nat
  | .root => 0
  | .here => 1
  | .up => 2
  | .name _ => 3

/-- The order of parts: by kind, names by their text. -/
def comparePart (a b : PathPart) : Ordering :=
  match a, b with
  | .name s, .name t => if s < t then .lt else if t < s then .gt else .eq
  | _, _ => compare (rank a) (rank b)

/-- The order of lists of parts. -/
def compareParts : List PathPart → List PathPart → Ordering
  | [], [] => .eq
  | [], _ :: _ => .lt
  | _ :: _, [] => .gt
  | a :: as, b :: bs =>
    match comparePart a b with
    | .eq => compareParts as bs
    | o => o

/-- The order of paths, part by part. -/
def compare (a b : String) : Ordering :=
  compareParts (parts a) (parts b)

end Path

end SinkAudit

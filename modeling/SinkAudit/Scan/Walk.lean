import SinkAudit.Ignore.Level
import SinkAudit.Scan.Content

/-!
# Walking a directory

The files below a directory come in the order of a walk that visits the entries of each directory by
name.  Links are not followed, except that the directory itself may be given by one.  If ignore
files are respected, what they ignore is passed over, a directory with all that is in it, and so are
names that begin with a dot unless a rule keeps them.

* `Walk.files`: the files below a node of the workspace.
* `Scanner.files`, `Scanner.scanTree`: the files that are scanned and their candidates.
-/

namespace SinkAudit

namespace Walk

/-- The directory that is walked: as it was given, and as an absolute path with the levels above. -/
structure Base where
  root : String
  absolute : String
  above : List IgnoreLevel

/-- The path below the root as an absolute one. -/
def Base.absolutePath (b : Base) (path : String) : String :=
  let below :=
    if Path.parts b.root == [.here] then path
    else IgnoreFile.stripFront "/" (IgnoreFile.stripFront (IgnoreFile.stripHere b.root) path)
  Path.join b.absolute below

/-- The levels that have a say about a path. -/
def Base.levels (b : Base) (own : List IgnoreLevel) (path : String) : List (IgnoreLevel × String) :=
  own.map (·, path) ++ b.above.map (·, b.absolutePath path)

/-- Whether an entry is passed over. -/
def skips (b : Base) (own : List IgnoreLevel) (path name : String) (isDir : Bool) : Bool :=
  match IgnoreLevel.ruling (b.levels own (IgnoreFile.stripHere path)) isDir with
  | some .ignore => true
  | some .keep => false
  | none => name.startsWith "."

/-- Whether a node is a directory. -/
def isDir : Node → Bool
  | .dir _ => true
  | _ => false

mutual

/-- The files of a node that is not passed over, with their paths.  Without a base nothing is.  A
directory whose path is too long cannot be listed. -/
def files (w : Workspace) (b : Option Base) (own : List IgnoreLevel) (path : String) :
    Node → List (String × Nat)
  | .file id => [(path, id)]
  | .link _ => []
  | .dir es =>
    if Workspace.maxPath < path.utf8ByteSize then []
    else
      match b with
      | some _ => entryFiles w b (IgnoreLevel.load w path :: own) path es
      | none => entryFiles w b own path es

/-- The files of the entries of a directory. -/
def entryFiles (w : Workspace) (b : Option Base) (own : List IgnoreLevel) (above : String) :
    List (String × Node) → List (String × Nat)
  | [] => []
  | (name, node) :: es =>
    let path := Path.join above name
    let rest := entryFiles w b own above es
    match b with
    | some base =>
      if skips base own path name (isDir node) then rest
      else files w b own path node ++ rest
    | none => files w b own path node ++ rest

end

/-- The places above a place, nearest first. -/
def above : Place → List Place
  | [] => []
  | _ :: p => p :: above p

/-- The base for a root that is at a place. -/
def baseAt (w : Workspace) (root : String) (place : Place) : Base :=
  ⟨root, Workspace.placeText place,
    (above place).map fun p => IgnoreLevel.load w (Workspace.placeText p)⟩

end Walk

namespace Scanner

/-- Whether a file is scanned, by the extension of its name. -/
def isEligible (s : Scanner) (path : String) : Bool :=
  match Path.extension? path with
  | some e => s.config.extensions.contains e
  | none => false

/-- The files below a root that are scanned.  A root that is a mere dash stands for a stream, which
has none. -/
def files (s : Scanner) (w : Workspace) (root : String) (place : Place) (node : Node) :
    List (String × Nat) :=
  if Path.parts root == [.name "-"] then []
  else
    let base := if s.config.respectIgnoreFiles then some (Walk.baseAt w root place) else none
    (Walk.files w base [] root node).filter fun f => s.isEligible f.1

/-- The candidates of a file; one that is not text, or whose path is too long to open, has none. -/
def scanFile (s : Scanner) (w : Workspace) (file : String × Nat) : Except Error (List Candidate) :=
  if Workspace.maxPath < file.1.utf8ByteSize then .ok []
  else
    match String.fromUTF8? (w.content file.2) with
    | some text => s.scanContent file.1 text
    | none => .ok []

/-- The candidates below a root, file by file. -/
def scanTree (s : Scanner) (w : Workspace) (root : String) : Except Error (List Candidate) :=
  match w.node root with
  | .ok (place, .dir es) => gather (s.scanFile w) (s.files w root place (.dir es))
  | _ => .error (.directoryNotFound root)

end Scanner

end SinkAudit

import SinkAudit.Error
import SinkAudit.Workspace.Path

/-!
# Workspaces

A workspace is a tree of files, directories and symbolic links, with a working directory in it.  The
content of a file is kept apart from the tree, under a number: a file that is open for appending is
known by that number, so it stays the same file when its name is removed or given to another.

* `Node`: what a name stands for.
* `Workspace.resolve`: the place that a path leads to, links followed.
* Reading: `isDir`, `leads`, `read`, `readText`, `canonical`.
* Writing: `openFile`, `append`, `write`, `createDirs`, `rename`, `remove`, `createLink`.
* `Saving`: what becomes of bytes that are given to a file; `saveTo`, `save`: giving them to it.

Operations that can fail half-way return the workspace as they leave it, whatever the result.
-/

namespace SinkAudit

/-- What a name stands for: a file by its number, a link, or a directory. -/
inductive Node where
  | file (id : Nat)
  | link (target : String)
  | dir (entries : List (String × Node))
  deriving Repr, Inhabited

/-- A place in the tree: the names from the root down, deepest first. -/
abbrev Place := List String

namespace Node

/-- The entry with a name. -/
def child? (name : String) : List (String × Node) → Option Node
  | [] => none
  | (k, n) :: es => if k = name then some n else child? name es

/-- The entries with one more or one replaced; entries stand in the order of their names. -/
def insert (name : String) (node : Node) : List (String × Node) → List (String × Node)
  | [] => [(name, node)]
  | (k, n) :: es =>
    if k = name then (name, node) :: es
    else if name < k then (name, node) :: (k, n) :: es
    else (k, n) :: insert name node es

/-- The entries without one. -/
def erase (name : String) (es : List (String × Node)) : List (String × Node) :=
  es.filter fun e => e.1 != name

/-- The node below a node, by names from the top. -/
def get? : Node → List String → Option Node
  | n, [] => some n
  | dir es, k :: ks => (child? k es).bind fun n => n.get? ks
  | _, _ :: _ => none

/-- The tree with the entries of one directory changed. -/
def modify (f : List (String × Node) → List (String × Node)) : Node → List String → Node
  | dir es, [] => dir (f es)
  | dir es, k :: ks => dir (es.map fun e => if e.1 = k then (k, e.2.modify f ks) else e)
  | n, _ => n

end Node

/-- A tree with the contents of its files and a working directory. -/
structure Workspace where
  root : Node
  contents : Array ByteArray
  home : Place
  deriving Inhabited

namespace Workspace

/-- A workspace with nothing but its working directory, which has the given name. -/
def empty (name : String) : Workspace :=
  ⟨.dir [(name, .dir [])], #[], [name]⟩

/-- The node at a place. -/
def nodeAt? (w : Workspace) (p : Place) : Option Node :=
  w.root.get? p.reverse

/-- The workspace with the entries of a directory changed. -/
def modifyAt (w : Workspace) (p : Place) (f : List (String × Node) → List (String × Node)) :
    Workspace :=
  { w with root := w.root.modify f p.reverse }

/-- The absolute path of a place. -/
def placeText (p : Place) : String :=
  if p.isEmpty then "/" else p.reverse.foldl (fun s k => s ++ "/" ++ k) ""

/-! ## Paths -/

/-- Where a path leads: to something, or to a name that a directory does not have. -/
inductive Target where
  | found (place : Place) (node : Node)
  | missing (dir : Place) (name : String)

/-- The number of links that may be followed on the way. -/
def maxLinks : Nat := 40

/-- The longest name, in bytes. -/
def maxName : Nat := 255

/-- The longest path, in bytes. -/
def maxPath : Nat := 4095

/-- What is done at the last name of a path. -/
inductive Purpose where
  /-- A link is taken as it is. -/
  | inspect
  /-- A link is followed. -/
  | enter
  /-- A link is followed, and a file may be made; so no slash may come after the name. -/
  | create
  deriving DecidableEq

/-- A path taken apart: whether it starts at the root, its names, and whether a slash ends it. -/
structure Route where
  absolute : Bool
  names : List String
  slash : Bool

/-- The route of a path. -/
def route (path : String) : Route :=
  ⟨path.startsWith "/", (Path.pieces [] path.toList).filter fun s => !s.isEmpty,
    path.endsWith "/"⟩

/-- The names to follow; a slash at the end counts as an empty name. -/
def Route.steps (r : Route) : List String :=
  if r.slash then r.names ++ [""] else r.names

/-- What lies on the way from the root to a place, deepest first. -/
abbrev Trail := List (String × Node)

/-- The node where a trail ends. -/
def trailEnd (w : Workspace) : Trail → Node
  | [] => w.root
  | e :: _ => e.2

/-- The place where a trail ends. -/
def Trail.place (t : Trail) : Place := t.map (·.1)

/-- The trail down from a node by names. -/
def trailFrom? (sofar : Trail) : Node → List String → Option Trail
  | _, [] => some sofar
  | .dir es, k :: ks =>
    match Node.child? k es with
    | some n => trailFrom? ((k, n) :: sofar) n ks
    | none => none
  | _, _ :: _ => none

/-- Follows names along a trail.  `onLink` goes on from a trail with the names that a link and what
comes after it make. -/
def walk (w : Workspace) (purpose : Purpose)
    (onLink : Trail → List String → Except FileFault Target) :
    Trail → List String → Except FileFault Target
  | t, [] => .ok (.found t.place (w.trailEnd t))
  | t, k :: ks =>
    match w.trailEnd t with
    | .dir es =>
      if k = "." ∨ k = "" then walk w purpose onLink t ks
      else if k = ".." then walk w purpose onLink t.tail ks
      else if purpose = .create ∧ ks = [""] then .error .isDirectory
      else if maxName < k.utf8ByteSize then .error .nameTooLong
      else
        match Node.child? k es with
        | none => if ks.isEmpty then .ok (.missing t.place k) else .error .notFound
        | some (.link target) =>
          if ks.isEmpty && purpose = .inspect then .ok (.found (k :: t.place) (.link target))
          else
            let r := route target
            onLink (if r.absolute then [] else t) (r.steps ++ ks)
        | some n => walk w purpose onLink ((k, n) :: t) ks
    | _ => .error .notDirectory

/-- Follows names along a trail, with links to spare. -/
def walkLinks (w : Workspace) (purpose : Purpose) :
    Nat → Trail → List String → Except FileFault Target
  | 0 => w.walk purpose fun _ _ => .error .linkLoop
  | n + 1 => w.walk purpose (walkLinks w purpose n)

/-- Follows names from the root or from the working directory. -/
def walkRoute (w : Workspace) (purpose : Purpose) (absolute : Bool) (names : List String) :
    Except FileFault Target :=
  match trailFrom? [] w.root (if absolute then [] else w.home.reverse) with
  | some t => w.walkLinks purpose maxLinks t names
  | none => .error .notFound

/-- Why a path cannot lead anywhere, whatever the workspace is. -/
def pathFault? (path : String) : Option FileFault :=
  if path.toList.contains '\x00' then some .nulInName
  else if path.isEmpty then some .notFound
  else if maxPath < path.utf8ByteSize then some .nameTooLong
  else none

/-- The place a path leads to.  A path that ends with a slash has to lead to a directory. -/
def resolve (w : Workspace) (purpose : Purpose) (path : String) : Except FileFault Target :=
  match pathFault? path with
  | some e => .error e
  | none =>
    let r := route path
    w.walkRoute purpose r.absolute r.steps

/-- The last name of a path. -/
inductive LastName where
  /-- The path has no last name, or it is a dot or two dots. -/
  | special
  | name (s : String)

/-- The directory in which the last name of a path stands, and that name. -/
def resolveParent (w : Workspace) (path : String) : Except FileFault (Place × LastName) :=
  match pathFault? path with
  | some e => .error e
  | none =>
    let r := route path
    match w.walkRoute .enter r.absolute (r.names.dropLast ++ ["."]) with
    | .error e => .error e
    | .ok (.missing _ _) => .error .notFound
    | .ok (.found p _) =>
      match r.names.getLast? with
      | none => .ok (p, .special)
      | some k => .ok (p, if k = "." ∨ k = ".." then .special else .name k)

/-! ## Reading -/

/-- The node a path leads to. -/
def node (w : Workspace) (path : String) : Except FileFault (Place × Node) :=
  match w.resolve .enter path with
  | .error e => .error e
  | .ok (.found p n) => .ok (p, n)
  | .ok (.missing _ _) => .error .notFound

/-- Whether a path leads to a directory. -/
def isDir (w : Workspace) (path : String) : Bool :=
  match w.node path with
  | .ok (_, .dir _) => true
  | _ => false

/-- Whether a path leads to anything. -/
def leads (w : Workspace) (path : String) : Bool :=
  (w.node path).toBool

/-- The absolute path, without links, of what a path leads to. -/
def canonical (w : Workspace) (path : String) : Except FileFault String :=
  (w.node path).map fun r => placeText r.1

/-- The content of a file by its number. -/
def content (w : Workspace) (id : Nat) : ByteArray :=
  w.contents.getD id ByteArray.empty

/-- The content of the file a path leads to. -/
def read (w : Workspace) (path : String) : Except FileFault ByteArray :=
  match w.node path with
  | .error e => .error e
  | .ok (_, .file id) => .ok (w.content id)
  | .ok _ => .error .isDirectory

/-- The content of a file as text. -/
def readText (w : Workspace) (path : String) : Except FileFault String :=
  match w.read path with
  | .error e => .error e
  | .ok bytes =>
    match String.fromUTF8? bytes with
    | some s => .ok s
    | none => .error .notText

/-! ## Writing -/

/-- Gives an entry of a directory a node. -/
def setEntry (w : Workspace) (dir : Place) (name : String) (n : Node) : Workspace :=
  w.modifyAt dir (Node.insert name n)

/-- Adds an empty file to a directory. -/
def newFile (w : Workspace) (dir : Place) (name : String) : Nat × Workspace :=
  let id := w.contents.size
  (id, { w.setEntry dir name (.file id) with contents := w.contents.push ByteArray.empty })

/-- The file a path leads to, made if it is missing. -/
def openFile (w : Workspace) (path : String) : Except FileFault (Nat × Workspace) :=
  match w.resolve .create path with
  | .error e => .error e
  | .ok (.found _ (.file id)) => .ok (id, w)
  | .ok (.found _ _) => .error .isDirectory
  | .ok (.missing dir name) => .ok (w.newFile dir name)

/-- Gives a file a content. -/
def setContent (w : Workspace) (id : Nat) (bytes : ByteArray) : Workspace :=
  { w with contents := w.contents.setIfInBounds id bytes }

/-- Adds to the end of a file. -/
def append (w : Workspace) (id : Nat) (bytes : ByteArray) : Workspace :=
  w.setContent id (w.content id ++ bytes)

/-- Makes a path lead to a file with the given content. -/
def write (w : Workspace) (path : String) (bytes : ByteArray) : Except FileFault Workspace :=
  (w.openFile path).map fun r => r.2.setContent r.1 bytes

/-! ## Saving -/

end Workspace

/-- What becomes of bytes that are given to a file: all of them are saved, or there is a fault when the
first `kept` of them are in the file.  If these are all of them, then it is the sync that failed. -/
inductive Saving where
  | done
  | cut (kept : Nat) (fault : FileFault)
  deriving DecidableEq, Repr

namespace Saving

/-- The bytes that get into the file. -/
def part (bytes : ByteArray) : Saving → ByteArray
  | done => bytes
  | cut kept _ => bytes.extract 0 kept

/-- What is reported. -/
def result : Saving → Except FileFault Unit
  | done => .ok ()
  | cut _ fault => .error fault

end Saving

namespace Workspace

/-- Saves bytes behind the end of a file. -/
def saveTo (w : Workspace) (id : Nat) (bytes : ByteArray) (saving : Saving) :
    Except FileFault Unit × Workspace :=
  (saving.result, w.append id (saving.part bytes))

/-- Makes a path lead to a file and saves bytes in it.  What was in the file before is gone, whether or
not they can be saved. -/
def save (w : Workspace) (path : String) (bytes : ByteArray) (saving : Saving) :
    Except FileFault Unit × Workspace :=
  match w.write path (saving.part bytes) with
  | .error e => (.error e, w)
  | .ok w => (saving.result, w)

/-! ## Directories and names -/

/-- Makes one directory. -/
def createDir (w : Workspace) (path : String) : Except FileFault Workspace :=
  match w.resolveParent path with
  | .error e => .error e
  | .ok (_, .special) => .error .exists
  | .ok (dir, .name k) =>
    if maxName < k.utf8ByteSize then .error .nameTooLong
    else
      match w.nodeAt? dir with
      | some (.dir es) =>
        if (Node.child? k es).isSome then .error .exists else .ok (w.setEntry dir k (.dir []))
      | _ => .error .notDirectory

/-- Makes a directory and the directories above it, trying the path itself first. -/
def createDirsFrom : Nat → Workspace → String → Except FileFault Unit × Workspace
  | 0, w, _ => (.error .notFound, w)
  | fuel + 1, w, path =>
    if path.isEmpty then (.ok (), w)
    else
      match w.createDir path with
      | .ok w => (.ok (), w)
      | .error .notFound =>
        match Path.parent? path with
        | none => (.error (.other "failed to create whole tree"), w)
        | some up =>
          match createDirsFrom fuel w up with
          | (.error e, w) => (.error e, w)
          | (.ok (), w) =>
            match w.createDir path with
            | .ok w => (.ok (), w)
            | .error e => if w.isDir path then (.ok (), w) else (.error e, w)
      | .error e => if w.isDir path then (.ok (), w) else (.error e, w)

/-- Makes a directory and the directories above it. -/
def createDirs (w : Workspace) (path : String) : Except FileFault Unit × Workspace :=
  createDirsFrom ((Path.parts path).length + 1) w path

/-- Gives the file at one path the name of another, replacing what is there unless it is a
directory. -/
def rename (w : Workspace) (source target : String) : Except FileFault Workspace :=
  match w.resolveParent source, w.resolveParent target with
  | .error e, _ => .error e
  | _, .error e => .error e
  | .ok (_, .special), _ => .error .busy
  | _, .ok (_, .special) => .error .busy
  | .ok (fromDir, .name k), .ok (toDir, .name l) =>
    if maxName < k.utf8ByteSize then .error .nameTooLong
    else
    match w.nodeAt? (k :: fromDir) with
    | none => .error .notFound
    | some n =>
      if maxName < l.utf8ByteSize then .error .nameTooLong
      else if (route source).slash || (route target).slash then .error .notDirectory
      else
        match w.nodeAt? (l :: toDir) with
        | some (.dir _) => .error .isDirectory
        | _ => .ok ((w.modifyAt fromDir (Node.erase k)).setEntry toDir l n)

/-- Removes what a path names, with everything below it; false if nothing is there. -/
def remove (w : Workspace) (path : String) : Bool × Workspace :=
  match w.resolve .inspect path with
  | .ok (.found (k :: dir) _) => (true, w.modifyAt dir (Node.erase k))
  | _ => (false, w)

/-- Makes a path name a link. -/
def createLink (w : Workspace) (path target : String) : Except FileFault Workspace :=
  match w.resolveParent path with
  | .error e => .error e
  | .ok (_, .special) => .error .exists
  | .ok (dir, .name k) =>
    match w.nodeAt? (k :: dir) with
    | some _ => .error .exists
    | none => .ok (w.setEntry dir k (.link target))

/-! ## Listing -/

mutual

/-- The paths below a node, directories with a slash. -/
def listNode (path : String) : Node → List String
  | .file _ => [path]
  | .link _ => [path]
  | .dir es => (path ++ "/") :: listEntries (path ++ "/") es

/-- The paths of entries and what is below them. -/
def listEntries (above : String) : List (String × Node) → List String
  | [] => []
  | (k, n) :: es => listNode (above ++ k) n ++ listEntries above es

end

/-- The paths below the working directory, in order. -/
def listing (w : Workspace) : List String :=
  match w.nodeAt? w.home with
  | some (.dir es) => (listEntries "" es).mergeSort fun a b => !decide (b < a)
  | _ => []

end Workspace

end SinkAudit

import SinkAudit.Ignore.Rule
import SinkAudit.Text.Rows
import SinkAudit.Workspace.Basic

/-!
# Ignore files of a directory and of those above it

Each directory may have three ignore files: `.ignore`, `.gitignore`, and the exclude file of a
repository that begins there.  For a path the nearest directory whose file has something to say
decides, for each kind of file by itself; then `.ignore` goes before `.gitignore` and that before
the exclude file.  The files of a repository count only inside one, and not from beyond its top.

Directories above the one that is scanned take part as well.
-/

namespace SinkAudit

/-- The rules of one ignore file, with the directory that its paths start from. -/
structure IgnoreFile where
  base : String
  rules : List IgnoreRule

/-- The ignore files of a directory. -/
structure IgnoreLevel where
  dir : String
  plain : IgnoreFile
  git : IgnoreFile
  exclude : IgnoreFile
  /-- A repository begins here. -/
  isRepo : Bool

namespace IgnoreFile

/-- A path without a given text at its front. -/
def stripFront (front path : String) : String :=
  if front.toList.isPrefixOf path.toList then String.ofList (path.toList.drop front.length)
  else path

/-- A path without the dot and slash at its front. -/
def stripHere (path : String) : String := stripFront "./" path

/-- The rows of a file, the first without byte order marks. -/
def rows (bytes : ByteArray) : List String :=
  match Text.textRows bytes with
  | [] => []
  | t :: ts => String.ofList (t.toList.dropWhile (· == '\ufeff')) :: ts

/-- The rules of rows; if one of them is nested too deeply, none can be used. -/
def rulesOf (rows : List String) : List IgnoreRule :=
  let rules := rows.filterMap IgnoreRule.ofRow?
  if rules.any (·.glob.isTooDeep) then [] else rules

/-- The ignore file at a path, for the directory `base`; one that cannot be read has no rules. -/
def load (w : Workspace) (base path : String) : IgnoreFile :=
  ⟨stripHere base,
    match w.read path with
    | .ok bytes => rulesOf (rows bytes)
    | .error _ => []⟩

/-- A path as seen from the directory of the file. -/
def relative (f : IgnoreFile) (path : String) : String :=
  let path := stripHere path
  if f.base == "." || !path.toList.contains '/' then path
  else if f.base.toList.isPrefixOf path.toList then stripFront "/" (stripFront f.base path)
  else path

/-- What a file says of a path. -/
def ruling (f : IgnoreFile) (path : String) (isDir : Bool) : Option Ruling :=
  if f.rules.isEmpty then none else rulingOf f.rules (f.relative path) isDir

end IgnoreFile

namespace IgnoreLevel

/-- The first row of a file. -/
def firstRow? (w : Workspace) (path : String) : Option String :=
  match w.read path with
  | .ok bytes => (Text.textRows bytes).head?
  | .error _ => none

/-- Where the repository that begins in a directory keeps its files: below `.git`, or, if that is a
file, where it points to. -/
def repoDir? (w : Workspace) (dir : String) : Option String :=
  let place := Path.join dir ".git"
  match w.node place with
  | .ok (_, .file _) =>
    match firstRow? w place with
    | none => none
    | some row =>
      if !row.startsWith "gitdir: " then none
      else
        let real := IgnoreFile.stripFront "gitdir: " row
        match firstRow? w (Path.join real "commondir") with
        | none => none
        | some common => some (if common.startsWith "." then Path.join real common else common)
  | _ => some place

/-- The ignore files of a directory. -/
def load (w : Workspace) (dir : String) : IgnoreLevel where
  dir := dir
  plain := IgnoreFile.load w dir (Path.join dir ".ignore")
  git := IgnoreFile.load w dir (Path.join dir ".gitignore")
  exclude :=
    match repoDir? w dir with
    | some repo => IgnoreFile.load w dir (Path.join repo "info/exclude")
    | none => ⟨dir, []⟩
  isRepo := w.leads (Path.join dir ".git")

/-- The levels up to the first at which a repository begins, that one included; none if there is no
such level. -/
def withinRepo : List (IgnoreLevel × String) → List (IgnoreLevel × String)
  | [] => []
  | l :: ls =>
    if l.1.isRepo then [l]
    else
      match withinRepo ls with
      | [] => []
      | m :: ms => l :: m :: ms

/-- What levels say of a path; each comes with the path as it is seen from there, nearest first. -/
def ruling (levels : List (IgnoreLevel × String)) (isDir : Bool) : Option Ruling :=
  let repo := withinRepo levels
  (levels.findSome? fun l => l.1.plain.ruling l.2 isDir) <|>
  (repo.findSome? fun l => l.1.git.ruling l.2 isDir) <|>
  (repo.findSome? fun l => l.1.exclude.ruling l.2 isDir)

end IgnoreLevel

end SinkAudit

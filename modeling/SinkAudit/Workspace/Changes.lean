import SinkAudit.Workspace.Basic

/-!
# Changes between workspaces

What has to be written and removed to turn one workspace into another, file by file.
-/

namespace SinkAudit

namespace Workspace

mutual

/-- The files of a node with their numbers. -/
def nodeFiles (path : String) : Node → List (String × Nat)
  | .file id => [(path, id)]
  | .link _ => []
  | .dir es => entryFiles path es

/-- The files of entries. -/
def entryFiles (above : String) : List (String × Node) → List (String × Nat)
  | [] => []
  | (k, n) :: es => nodeFiles (above ++ "/" ++ k) n ++ entryFiles above es

end

/-- All files, by absolute path. -/
def files (w : Workspace) : List (String × ByteArray) :=
  (nodeFiles "" w.root).map fun f => (f.1, w.content f.2)

/-- The files of `after` that `before` does not have with the same content. -/
def written (before after : Workspace) : List (String × ByteArray) :=
  let old := before.files
  after.files.filter fun f => !old.any fun g => g.1 == f.1 && g.2 == f.2

/-- The files of `before` that `after` does not have. -/
def removed (before after : Workspace) : List String :=
  let new := after.files
  (before.files.filter fun f => !new.any fun g => g.1 == f.1).map (·.1)

end Workspace

end SinkAudit

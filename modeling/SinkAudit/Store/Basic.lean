import SinkAudit.Config.Basic
import SinkAudit.Store.Log
import SinkAudit.Workspace.Basic

/-!
# The store of verdicts

A store keeps verdicts in memory and, if it is enabled, in a log in the workspace.  Every `put`
appends a record.  `compact` writes the log anew, one record for each signature, beside the old log
and then in its place; `flush` does so if anything has been appended since.

Opening never fails: a log that is missing or cannot be read as text is taken as empty.  A `put`
that cannot reach the log reports that, and keeps the verdict in memory.

What is written may be cut off by a fault of the device (`Saving`).  Then a `put` leaves the first part
of a record at the end of the log, and `compact` leaves the first part of the new log beside the old one.
Both report the fault, and neither takes the log to be any other than before.
-/

namespace SinkAudit

/-- A store of verdicts. -/
structure Store where
  /-- The path of the log; none if the store is disabled. -/
  path : Option String
  entries : Entries
  /-- The log, open for appending. -/
  handle : Option Nat
  /-- The log stopped in the middle of a row when it was read. -/
  torn : Bool
  /-- The records appended since the last compaction. -/
  appended : Nat

namespace Store

/-- A store that keeps nothing. -/
def disabled : Store := ⟨none, [], none, false, 0⟩

/-- The store with a log at a path. -/
def openAt (w : Workspace) (path : String) : Store :=
  match w.readText path with
  | .ok log => ⟨some path, Log.entries log, none, Log.isTorn log, 0⟩
  | .error _ => ⟨some path, [], none, false, 0⟩

/-- The store that is configured. -/
def ofConfig (w : Workspace) (c : CacheConfig) : Store :=
  if c.enabled then openAt w c.path else disabled

/-- Whether the store keeps verdicts. -/
def isEnabled (s : Store) : Bool := s.path.isSome

/-- The verdict for a signature. -/
def get? (s : Store) (sig : String) : Option Verdict := s.entries.get? sig

/-- The number of verdicts. -/
def size (s : Store) : Nat := s.entries.length

/-- The log of a store at a path, open for appending, with the directories above it made first. -/
def openLog (w : Workspace) (path : String) : Except Error Nat × Workspace :=
  match w.createDirs ((Path.parent? path).getD "") with
  | (.error e, w) => (.error (.file e), w)
  | (.ok (), w) =>
    match w.openFile path with
    | .error e => (.error (.cache path e.message), w)
    | .ok (id, w) => (.ok id, w)

/-- The handle of a store, opened if it is not. -/
def writer (s : Store) (w : Workspace) (path : String) : Except Error Nat × Workspace :=
  match s.handle with
  | some id => (.ok id, w)
  | none => openLog w path

/-- Keeps a verdict and appends it to the log. -/
def put (s : Store) (w : Workspace) (sig : String) (v : Verdict) (saving : Saving := .done) :
    Except Error Unit × Store × Workspace :=
  match s.path with
  | none => (.ok (), s, w)
  | some path =>
    let s := { s with entries := s.entries.insert sig v }
    match s.writer w path with
    | (.error e, w) => (.error e, s, w)
    | (.ok id, w) =>
      let s := { s with handle := some id }
      let text := (if s.torn then "\n" else "") ++ Log.line sig v
      match w.saveTo id text.toUTF8 saving with
      | (.error e, w) => (.error (.file e), s, w)
      | (.ok (), w) => (.ok (), { s with torn := false, appended := s.appended + 1 }, w)

/-- The path beside the log at which it is written anew. -/
def tempPath (path : String) : String :=
  Path.withFileName path ((Path.fileName? path).getD "cache" ++ ".tmp")

/-- Writes the log anew. -/
def compact (s : Store) (w : Workspace) (saving : Saving := .done) :
    Except Error Unit × Store × Workspace :=
  match s.path with
  | none => (.ok (), s, w)
  | some path =>
    match w.save (tempPath path) (Log.text s.entries).toUTF8 saving with
    | (.error e, w) => (.error (.file e), s, w)
    | (.ok (), w) =>
      match w.rename (tempPath path) path with
      | .error e => (.error (.file e), s, w)
      | .ok w => (.ok (), { s with handle := none, torn := false, appended := 0 }, w)

/-- Writes the log anew if anything has been appended to it. -/
def flush (s : Store) (w : Workspace) (saving : Saving := .done) :
    Except Error Unit × Store × Workspace :=
  if 0 < s.appended then s.compact w saving else (.ok (), s, w)

end Store

end SinkAudit

import Std.Time.DateTime.Timestamp
import SinkAudit.Command.Run
import SinkAudit.Workspace.Changes

/-!
# The program

Reads the working directory, runs the command that the arguments ask for on it, and carries out the
changes.

The workspace of a run has the files and directories below the working directory, and nothing else:
links are left out, and every path that leads elsewhere is taken as missing.  So a directory elsewhere
cannot be scanned with this program, and a configuration or a log that lies elsewhere is not found.

There is no transport in this program either: a question to a classifier fails as it does when the
network is down, so a scan shows what the store of verdicts knows.
-/

namespace SinkAudit.Program

/-- Adds a directory and what is below it to a workspace; links are left out, and so is all that is not
below the directory. -/
partial def load (dir : String) (w : Workspace) : IO Workspace := do
  let mut w := (w.createDirs dir).2
  for e in ← (← IO.FS.realPath dir).readDir do
    let path := Path.join dir e.fileName
    match (← e.path.symlinkMetadata).type with
    | .dir => w ← load path w
    | .file =>
      let bytes ← IO.FS.readBinFile path
      w := (w.write path bytes).toOption.getD w
    | _ => pure ()
  return w

/-- Carries out the changes from one workspace to another. -/
def save (before after : Workspace) : IO Unit := do
  for (path, bytes) in before.written after do
    IO.FS.createDirAll ((Path.parent? path).getD "/")
    IO.FS.writeBinFile path bytes
  for path in before.removed after do
    IO.FS.removeFile path

/-- A random identifier: groups of hexadecimal digits, with the marks of its kind. -/
def newGuid : IO String := do
  let bytes := (← IO.getRandomBytes 16).toList
  let bytes := bytes.mapIdx fun i b =>
    if i == 6 then b % 16 + 64 else if i == 8 then b % 64 + 128 else b
  let digits := (Digest.hex bytes).toList
  let group (start size : Nat) : String := String.ofList ((digits.drop start).take size)
  return Text.joinWith "-" [group 0 8, group 8 4, group 12 4, group 16 4, group 20 12]

/-- The moment at which the program runs. -/
def currentMoment : IO Moment := do
  let nanos := (← Std.Time.Timestamp.now).toNanosecondsSinceUnixEpoch.toInt
  return ⟨nanos / 1000000000, (nanos % 1000000000).toNat⟩

/-- What surrounds the program. -/
def surroundings : IO Surroundings := do
  let key ← IO.getEnv credentialName
  let environment := key.toList.map fun k => (credentialName, k)
  return ⟨environment, ← currentMoment, ← newGuid, Network.none⟩

end SinkAudit.Program

open SinkAudit in
/-- Runs the program. -/
def main (args : List String) : IO UInt32 := do
  let here := (← IO.currentDir).toString
  let before ← Program.load here ⟨.dir [], #[], (Workspace.route here).names.reverse⟩
  let run := runProgram (← Program.surroundings) args before
  Program.save before run.disk
  (← IO.getStdout).putStr run.stdout
  (← IO.getStderr).putStr run.stderr
  return run.exit.toUInt32

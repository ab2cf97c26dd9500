import SinkAudit.Analysis.Audit
import SinkAudit.Classifier.Remote
import SinkAudit.Command.Basic
import SinkAudit.Command.Variables
import SinkAudit.Config.Load
import SinkAudit.Report.Render
import SinkAudit.Rule.Listing

/-!
# Running a command

A run takes a workspace and what surrounds the program, and gives what it prints, its exit code and
the workspace it leaves.  Findings are a result and no failure: a scan that finds something ends
like one that finds nothing.
-/

namespace SinkAudit

/-- What surrounds a run. -/
structure Surroundings where
  environment : Variables
  now : Moment
  /-- The identifier for a report. -/
  guid : String
  network : Network

/-- What a run does: what it prints, how it ends and the workspace it leaves. -/
structure Run where
  exit : Nat
  stdout : String
  stderr : String
  disk : Workspace

namespace Run

/-- A run that has just begun. -/
def start (w : Workspace) : Run := ⟨0, "", "", w⟩

/-- The run with more printed. -/
def print (r : Run) (text : String) : Run := { r with stdout := r.stdout ++ text }

/-- The run with more reported. -/
def note (r : Run) (text : String) : Run := { r with stderr := r.stderr ++ text }

/-- The run ended by an error.  Of what is printed when a run is stopped by an overflow, this has the
cause only. -/
def fail (r : Run) (e : Error) : Run :=
  { r.note ("Error: " ++ e.message ++ "\n") with exit := e.exitCode }

/-- The run after a file has been written, or ended because it could not. -/
def write (r : Run) (path text : String) (next : Run → Run) : Run :=
  match r.disk.write path text.toUTF8 with
  | .error e => r.fail (.file e)
  | .ok w => next { r with disk := w }

end Run

namespace Command

/-- A line of dashes. -/
def ruler : String := Text.repeated 100 "-" ++ "\n"

/-! ## Lists -/

/-- The row of a candidate in a table. -/
def candidateRow (c : Candidate) : String :=
  Text.padRight 22 c.ruleId ++ " " ++
    Text.padRight 40 (c.file ++ ":" ++ toString c.line) ++ " " ++ c.rawLine ++ "\n"

/-- Candidates as a table. -/
def candidateTable (cs : List Candidate) : String :=
  if cs.isEmpty then "No suspicious patterns found.\n"
  else
    Text.padRight 22 "RULE" ++ " " ++ Text.padRight 40 "LOCATION" ++ " LINE\n" ++ ruler ++
      Text.concat (cs.map candidateRow) ++
      "\n" ++ toString cs.length ++ " candidate(s)\n"

/-- Candidates in a format. -/
def candidateText (format : String) (cs : List Candidate) : String :=
  if format == "json" then (Json.arr (cs.map Candidate.toJson)).pretty ++ "\n"
  else candidateTable cs

/-- The row of a rule in a table. -/
def ruleRow (r : RuleInfo) : String :=
  Text.padRight 22 r.id ++ " " ++ Text.padRight 40 r.name ++ " " ++
    Text.padRight 10 r.severity.name ++ " " ++ Text.padRight 9 (r.cwe.getD "-") ++ " " ++
    toString r.patterns.length ++ "\n"

/-- Rules as a table. -/
def ruleTable (rs : List RuleInfo) : String :=
  Text.padRight 22 "ID" ++ " " ++ Text.padRight 40 "NAME" ++ " " ++ Text.padRight 10 "SEVERITY" ++
    " " ++ Text.padRight 9 "CWE" ++ " PATTERNS\n" ++ ruler ++ Text.concat (rs.map ruleRow)

/-- Rules in a format. -/
def ruleText (format : String) (rs : List RuleInfo) : String :=
  if format == "json" then (Json.arr (rs.map RuleInfo.toJson)).pretty ++ "\n" else ruleTable rs

/-- Lists the candidates below a directory. -/
def runSinks (r : Run) (path : String) (config : Option String) (format : String) : Run :=
  match (show Overrides from { configPath := config }).resolve r.disk with
  | .error e => r.fail e
  | .ok c =>
    match (Scanner.builtin c.scan).scanTree r.disk path with
    | .error e => r.fail e
    | .ok cs => r.print (candidateText format cs)

/-! ## Starting a configuration -/

/-- Writes the starter configuration, unless there is one. -/
def runInit (r : Run) (force : Bool) : Run :=
  if r.disk.leads configFileName && !force then
    { r.note (configFileName ++ " already exists. Use --force to overwrite.\n") with exit := 1 }
  else r.write configFileName starterText fun r => r.print ("Created " ++ configFileName ++ "\n")

/-! ## Scans -/

/-- The file for findings as JSON. -/
def findingsFile : String := "security_report.json"

/-- Writes the files that go with findings. -/
def writeReports (r : Run) (c : ScanCommand) (report : Report) : Run :=
  if report.findings.isEmpty then r
  else
    r.write c.report (Report.Markdown.render report) fun r =>
      let r := r.note ("Detailed report generated: " ++ c.report ++ "\n")
      if c.writeJson then
        r.write findingsFile (Report.renderFindings report.findings) fun r =>
          r.note ("JSON data saved to " ++ findingsFile ++ "\n")
      else r

/-- Prints or writes a report and the files that go with it. -/
def present (s : Surroundings) (r : Run) (c : ScanCommand) (format : Report.Format)
    (report : Report) : Run :=
  match report.render s.guid format with
  | .error e => r.fail e
  | .ok text =>
    match c.output with
    | some path => r.write path text fun r => writeReports r c report
    | none => writeReports (r.print text) c report

/-- The format that a word asks for; one that is not known is taken for the console's, with a
warning. -/
def formatOf (r : Run) (word : String) : Report.Format × Run :=
  match Report.Format.ofWord? word with
  | some f => (f, r)
  | none => (.console, r.note ("Warning: unknown format '" ++ word ++ "', using console\n"))

/-- Scans a directory and judges what it finds. -/
def runScan (s : Surroundings) (r : Run) (c : ScanCommand) : Run :=
  let (format, r) := formatOf r c.format
  match credential (s.environment.get? credentialName) with
  | .error e => r.fail e
  | .ok key =>
    if !r.disk.isDir c.path then r.fail (.directoryNotFound c.path)
    else
      match c.overrides.resolve r.disk with
      | .error e => r.fail e
      | .ok config =>
        match audit r.disk c.path config (.overNetwork s.network config.classifier key) s.now with
        | .error e => r.fail e
        | .ok a => present s { r with disk := a.disk } c format a.report

/-- Runs a command. -/
def run (s : Surroundings) (w : Workspace) : Command → Run
  | .scan c => runScan s (.start w) c
  | .sinks path config format => runSinks (.start w) path config format
  | .listRules format => (Run.start w).print (ruleText format Catalog.builtin.infos)
  | .init force => runInit (.start w) force

/-- The name and the version of the program. -/
def versionText : String := "sinkscan 0.1.0\n"

/-- How the program is used. -/
def usageText : String :=
  "Usage: sinkscan [OPTIONS] <COMMAND>\n\n" ++
  "Commands:\n" ++
  "  scan        Scan a directory and verify every candidate with the classifier\n" ++
  "  sinks       List candidate sinks without classifying them\n" ++
  "  list-rules  List all available detection rules\n" ++
  "  init        Generate a starter .sinkscan.toml config file\n"

end Command

/-- Runs the program with its arguments. -/
def runProgram (s : Surroundings) (args : List String) (w : Workspace) : Run :=
  match Command.parse args with
  | .error .usage => { (Run.start w).note Command.usageText with exit := 2 }
  | .error .version => (Run.start w).print Command.versionText
  | .error .help => (Run.start w).print Command.usageText
  | .ok c => Command.run { s with environment := s.environment.extended w } w c

end SinkAudit

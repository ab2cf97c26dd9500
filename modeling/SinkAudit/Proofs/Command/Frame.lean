import SinkAudit.Command.Run
import SinkAudit.Proofs.Analysis.Audit
import SinkAudit.Proofs.Analysis.Edits
import SinkAudit.Proofs.Scan.Walk

/-!
# What a command may change

A command changes a workspace only where it says it does.  Listing changes nothing; starting a
configuration writes one file, and leaves what is there alone unless it is forced; a scan that is refused
or stopped by an overflow before it has looked at all files changes nothing, and any other scan edits the
log of its store, the file for its output and the files that go with findings, each only if there is a
reason to.

A path that is written to stands for the file that it leads to, through links; what is moved in the place
of the log takes the place of the entry itself.

* `Command.ScanEdit`: the edits that a scan has a reason for.
* `Command.Refused`: the scans that do not begin, with the error they end in.
* `Command.Frame`: what the program may change, command by command; `frame_runProgram` says that it
  changes no more.
-/

namespace SinkAudit

open Workspace (Edited)

/-- An error of a configuration: of its settings, of its text, or of the file it is read from. -/
def Error.IsConfiguration : Error → Prop
  | .config _ => True
  | .toml _ => True
  | .file _ => True
  | _ => False

/-- A check of one setting gives an error of the configuration, or leaves it to the next. -/
theorem isConfiguration_of_check {p : Prop} [Decidable p] {text : String} {rest : Except Error Unit}
    {e : Error} (h : (if p then .error (.config text) else rest) = .error e)
    (hrest : rest = .error e → e.IsConfiguration) : e.IsConfiguration := by
  split at h
  · cases h
    exact trivial
  · exact hrest h

theorem Config.isConfiguration_of_checked {c : Config} {e : Error} (h : c.checked = .error e) :
    e.IsConfiguration := by
  have hvalidate : c.validate = .error e := by
    rw [checked] at h
    cases hv : c.validate with
    | error f =>
      rw [hv] at h
      exact congrArg Except.error (Except.error.inj h)
    | ok _ => rw [hv] at h; cases h
  rw [validate] at hvalidate
  refine isConfiguration_of_check hvalidate fun h => isConfiguration_of_check h fun h =>
    isConfiguration_of_check h fun h => isConfiguration_of_check h fun h => ?_
  split at h
  · cases h
  · cases h
    exact trivial

theorem Overrides.isConfiguration_of_resolve {o : Overrides} {w : Workspace} {e : Error}
    (h : o.resolve w = .error e) : e.IsConfiguration := by
  rw [resolve] at h
  split at h
  case h_2 => exact Config.isConfiguration_of_checked h
  case h_1 f hload =>
    cases h
    rw [Config.load] at hload
    split at hload
    · cases hload
    split at hload
    · cases hload
      exact trivial
    split at hload
    · cases hload
      exact trivial
    · exact Config.isConfiguration_of_checked hload

/-- A key that cannot be used is as good as missing. -/
theorem credential_eq_error {key : Option String} {e : Error} (h : credential key = .error e) :
    e = .missingCredential credentialName := by
  rw [credential.eq_def] at h
  split at h
  · split at h
    · cases h
      rfl
    · cases h
  · cases h
    rfl

/-- A scan of a directory succeeds, or there is an overflow. -/
theorem Scanner.scanTree_of_isDir (s : Scanner) {w : Workspace} {root : String}
    (h : w.isDir root = true) :
    (∃ cs, s.scanTree w root = .ok cs) ∨ s.scanTree w root = .error .overflow := by
  rw [Workspace.isDir] at h
  split at h
  case h_2 => cases h
  case h_1 place es hnode =>
    cases hscan : s.scanTree w root with
    | ok cs => exact Or.inl ⟨cs, rfl⟩
    | error e => exact Or.inr (congrArg Except.error (eq_overflow_of_scanTree hnode hscan))

/-- A report can be printed, or there is an overflow. -/
theorem Report.eq_overflow_of_render {guid : String} {r : Report} {format : Format} {e : Error}
    (h : r.render guid format = .error e) : e = .overflow := by
  cases format with
  | json => cases h
  | markdown => cases h
  | sarif => cases h
  | console =>
    rw [render, Console.render] at h
    split at h
    · cases h
    split at h
    · cases h
    · rw [Console.footer] at h
      cases hsum : Word.checked (r.stats.classified + r.stats.failures) with
      | ok n =>
        rw [hsum] at h
        cases h
      | error f =>
        rw [hsum] at h
        cases h
        exact Word.eq_overflow_of_checked hsum

namespace Command

/-- The edits that a scan has a reason for, by its settings and its report. -/
inductive ScanEdit (c : ScanCommand) (config : Config) (report : Report) : Edit → Prop
  | log {e : Edit} (enabled : config.cache.enabled = true) (found : report.candidates ≠ 0)
    (h : Store.LogEdit (some config.cache.path) e) : ScanEdit c config report e
  | output {path : String} (h : c.output = some path) : ScanEdit c config report (.file path)
  | report (h : report.findings ≠ []) : ScanEdit c config report (.file c.report)
  | findings (h : report.findings ≠ []) (hjson : c.writeJson = true) :
    ScanEdit c config report (.file findingsFile)

/-- A scan does not begin: there is no key, or no directory, or no configuration. -/
inductive Refused (s : Surroundings) (w : Workspace) (c : ScanCommand) : Error → Prop
  | credential
    (h : SinkAudit.credential (s.environment.get? credentialName) =
      .error (.missingCredential credentialName)) :
    Refused s w c (.missingCredential credentialName)
  | directory {key : String}
    (hkey : SinkAudit.credential (s.environment.get? credentialName) = .ok key)
    (h : w.isDir c.path = false) : Refused s w c (.directoryNotFound c.path)
  | configuration {key : String} {e : Error}
    (hkey : SinkAudit.credential (s.environment.get? credentialName) = .ok key)
    (hdir : w.isDir c.path = true) (h : c.overrides.resolve w = .error e)
    (hkind : e.IsConfiguration) : Refused s w c e

/-- How a scan that has begun may end: it succeeds, a file cannot be written, or there is an overflow. -/
def Ends (r : Run) : Prop :=
  r.exit = 0 ∨ (∃ r' fault, r = Run.fail r' (.file fault)) ∨ ∃ r', r = Run.fail r' .overflow

/-- What a scan does to the files of a workspace: nothing if it is refused or an overflow stops it before it
has looked at all files, and otherwise no edit that it has no reason for, however it ends. -/
inductive ScanFrame (s : Surroundings) (w : Workspace) (c : ScanCommand) (r : Run) : Prop
  | refused {e : Error} (why : Refused s w c e)
    (ends : r = (formatOf (.start w) c.format).2.fail e) (unchanged : r.disk = w)
  | stopped {key : String} {config : Config}
    (hkey : credential (s.environment.get? credentialName) = .ok key)
    (hdir : w.isDir c.path = true) (hconfig : c.overrides.resolve w = .ok config)
    (hscan : (Scanner.builtin config.scan).scanTree w c.path = .error .overflow)
    (ends : r = (formatOf (.start w) c.format).2.fail .overflow) (unchanged : r.disk = w)
  | scanned {key : String} {config : Config} {a : Audit}
    (hkey : credential (s.environment.get? credentialName) = .ok key)
    (hdir : w.isDir c.path = true) (hconfig : c.overrides.resolve w = .ok config)
    (haudit : audit w c.path config (.overNetwork s.network config.classifier key) s.now = .ok a)
    (ends : Ends r)
    (changes : w.ChangesOnly (ScanEdit c config a.report) r.disk)

/-- What the program may do to the files of a workspace when it has read its arguments. -/
def Frame (s : Surroundings) (w : Workspace) (r : Run) : Except Stop Command → Prop
  | .error _ => r.disk = w
  | .ok (.sinks _ _ _) => r.disk = w
  | .ok (.listRules _) => r.disk = w
  | .ok (.init force) =>
    w.ChangesOnly (· = .file configFileName) r.disk ∧
      (force = false → (w.leads configFileName = true → r.disk = w) ∧
        ∀ p, w.sight? p ≠ none → r.disk.sight? p = w.sight? p)
  | .ok (.scan c) => ScanFrame s w c r

/-! ## Writing files -/

/-- A run that comes of a workspace by edits of a kind, and ends as a scan may. -/
structure Proceeds (A : Edit → Prop) (w : Workspace) (r : Run) : Prop where
  edited : Edited A w r.disk
  ends : Ends r

section Writing

variable {A : Edit → Prop} {w : Workspace} {r : Run}

/-- Writing a file is an edit, and what comes next goes on from there. -/
theorem proceeds_write {path text : String} {next : Run → Run} (hA : A (.file path))
    (hr : Edited A w r.disk)
    (hnext : ∀ u, Edited A w u → Proceeds A w (next { r with disk := u })) :
    Proceeds A w (r.write path text next) := by
  rw [Run.write]
  split
  case h_1 fault _ => exact ⟨hr, Or.inr (Or.inl ⟨r, fault, rfl⟩)⟩
  case h_2 u hwrite => exact hnext u (hr.trans (Edited.write hA hwrite))

/-- The files that go with findings are written if there are any. -/
theorem proceeds_writeReports {c : ScanCommand} {config : Config} {report : Report}
    (hr : Edited (ScanEdit c config report) w r.disk) (hexit : r.exit = 0) :
    Proceeds (ScanEdit c config report) w (writeReports r c report) := by
  rw [writeReports]
  split
  case isTrue => exact ⟨hr, Or.inl hexit⟩
  case isFalse hfindings =>
    have hne : report.findings ≠ [] := fun hnil => hfindings (List.isEmpty_iff.mpr hnil)
    refine proceeds_write (.report hne) hr fun u hu => ?_
    dsimp only
    split
    case isFalse => exact ⟨hu, Or.inl hexit⟩
    case isTrue hjson =>
      exact proceeds_write (.findings hne hjson) hu fun v hv => ⟨hv, Or.inl hexit⟩

theorem proceeds_present {s : Surroundings} {c : ScanCommand} {config : Config} {report : Report}
    (format : Report.Format) (hr : Edited (ScanEdit c config report) w r.disk) (hexit : r.exit = 0) :
    Proceeds (ScanEdit c config report) w (present s r c format report) := by
  rw [present]
  split
  case h_1 e he =>
    obtain rfl := Report.eq_overflow_of_render he
    exact ⟨hr, Or.inr (Or.inr ⟨r, rfl⟩)⟩
  case h_2 text _ =>
    split
    case h_1 path hpath =>
      exact proceeds_write (.output hpath) hr fun u hu => proceeds_writeReports hu hexit
    case h_2 => exact proceeds_writeReports hr hexit

end Writing

/-! ## The commands -/

section Commands

variable (s : Surroundings) (w : Workspace)

/-- A format that is not known is no more than noted. -/
theorem formatOf_start (word : String) :
    (formatOf (.start w) word).2.disk = w ∧ (formatOf (.start w) word).2.exit = 0 := by
  rw [formatOf]
  split
  · exact ⟨rfl, rfl⟩
  · exact ⟨rfl, rfl⟩

theorem scanFrame_runScan (c : ScanCommand) : ScanFrame s w c (runScan s (.start w) c) := by
  obtain ⟨hdisk, hexit⟩ := formatOf_start w c.format
  rw [runScan]
  generalize hstart : formatOf (.start w) c.format = start at hdisk hexit
  obtain ⟨format, r⟩ := start
  dsimp only at hdisk hexit ⊢
  have hr : (formatOf (.start w) c.format).2 = r := by rw [hstart]
  rw [hdisk]
  split
  case h_1 e hkey =>
    obtain rfl := credential_eq_error hkey
    exact .refused (.credential hkey) (by rw [hr]) hdisk
  case h_2 key hkey =>
    split
    case isTrue hdir =>
      exact .refused (.directory hkey (by simpa using hdir)) (by rw [hr]) hdisk
    case isFalse hdir =>
      have hdir : w.isDir c.path = true := by simpa using hdir
      split
      case h_1 e hconfig =>
        exact .refused (.configuration hkey hdir hconfig
          (Overrides.isConfiguration_of_resolve hconfig)) (by rw [hr]) hdisk
      case h_2 config hconfig =>
        rcases (Scanner.builtin config.scan).scanTree_of_isDir hdir with ⟨cs, hcs⟩ | hscan
        · obtain ⟨a, ha⟩ := exists_audit hcs (.overNetwork s.network config.classifier key) s.now
          rw [ha]
          have hedited : Edited (ScanEdit c config a.report) w a.disk :=
            (audit_edited ha).mono fun e he => .log he.1 he.2.1 he.2.2
          have hproceeds := proceeds_present (s := s) (r := { r with disk := a.disk }) format hedited
            hexit
          exact .scanned hkey hdir hconfig ha hproceeds.ends hproceeds.edited.changesOnly
        · rw [audit_eq_error hscan]
          exact .stopped hkey hdir hconfig hscan (by rw [hr]) hdisk

theorem disk_runSinks (path : String) (config : Option String) (format : String) :
    (runSinks (.start w) path config format).disk = w := by
  rw [runSinks]
  split
  · rfl
  split
  · rfl
  · rfl

/-- Starting a configuration writes its file, and no other; one that is there is left alone. -/
theorem changesOnly_runInit (force : Bool) :
    w.ChangesOnly (· = .file configFileName) (runInit (.start w) force).disk ∧
      (force = false → (w.leads configFileName = true → (runInit (.start w) force).disk = w) ∧
        ∀ p, w.sight? p ≠ none → (runInit (.start w) force).disk.sight? p = w.sight? p) := by
  have hsame : w.ChangesOnly (· = .file configFileName) w := Edited.refl.changesOnly
  rw [runInit]
  split
  case isTrue => exact ⟨hsame, fun _ => ⟨fun _ => rfl, fun _ _ => rfl⟩⟩
  case isFalse hfree =>
    rw [Run.write]
    split
    case h_1 => exact ⟨hsame, fun _ => ⟨fun _ => rfl, fun _ _ => rfl⟩⟩
    case h_2 w' hwrite =>
      have hedited : Edited (· = .file configFileName) w w' := Edited.write rfl hwrite
      refine ⟨hedited.changesOnly, ?_⟩
      rintro rfl
      have hfree : ¬(w.leads configFileName && !false) = true := hfree
      have hleads : w.leads configFileName = false := by simpa using hfree
      refine ⟨fun hthere => ?_, fun p hp => Workspace.sight?_eq_of_write hleads hwrite hp⟩
      rw [hleads] at hthere
      cases hthere

end Commands

/-- Whatever its arguments are and whatever the workspace holds, the program changes the workspace only
as its command may. -/
theorem frame_runProgram (s : Surroundings) (args : List String) (w : Workspace) :
    Frame { s with environment := s.environment.extended w } w (runProgram s args w)
      (Command.parse args) := by
  rw [runProgram]
  cases Command.parse args with
  | error stop =>
    cases stop with
    | usage => rfl
    | version => rfl
    | help => rfl
  | ok command =>
    cases command with
    | scan c => exact scanFrame_runScan _ w c
    | sinks path config format => exact disk_runSinks w path config format
    | listRules format => rfl
    | init force => exact changesOnly_runInit w force

end Command
end SinkAudit

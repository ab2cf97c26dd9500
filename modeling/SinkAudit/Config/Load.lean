import SinkAudit.Config.Basic
import SinkAudit.Config.Starter
import SinkAudit.Text.Character
import SinkAudit.Toml.Reader
import SinkAudit.Url.Reader
import SinkAudit.Workspace.Basic

/-!
# Loading the configuration

Settings come from a file, and some of them may be overridden.  A missing file stands for the
defaults.  Settings are checked when they are loaded and again when they have been overridden, so an
override does not hide a bad file.

The key for the classifier comes from the environment.  A key of blanks alone is as good as none; any
other is used as it stands.
-/

namespace SinkAudit

namespace Config

/-- Refuses settings with which a scan would make no sense; the first fault is reported. -/
def validate (c : Config) : Except Error Unit :=
  if c.scan.extensions.isEmpty then
    .error (.config "scan.extensions must list at least one extension")
  else if c.scan.maxLineLength = 0 then
    .error (.config "scan.max_line_length must be greater than zero")
  else if c.classifier.timeoutSecs = 0 then
    .error (.config "classifier.timeout_secs must be greater than zero")
  else if c.classifier.workers = 0 then
    .error (.config "classifier.workers must be at least 1")
  else
    match Url.parse c.classifier.endpoint with
    | .ok _ => .ok ()
    | .error e =>
      .error (.config ("classifier.endpoint '" ++ c.classifier.endpoint ++
        "' is not a valid URL: " ++ e.message))

/-- The settings that a text gives. -/
def ofText? (text : String) : Option Config :=
  (Toml.parse? text).bind fun es => ofJson? true (Toml.table .header es).toJson

/-- The settings with their check. -/
def checked (c : Config) : Except Error Config :=
  c.validate.map fun _ => c

/-- The settings in the file that a path leads to. -/
def load (w : Workspace) (path : String) : Except Error Config :=
  if !w.leads path then .ok {}
  else
    match w.readText path with
    | .error e => .error (.file e)
    | .ok text =>
      match ofText? text with
      | none => .error (.toml "")
      | some c => c.checked

end Config

/-- What overrides the settings of a file. -/
structure Overrides where
  configPath : Option String := none
  noCache : Bool := false
  model : Option String := none
  workers : Option Nat := none
  deriving DecidableEq, Repr

namespace Overrides

/-- The settings with the overrides applied. -/
def apply (o : Overrides) (c : Config) : Config :=
  { c with
    cache := { c.cache with enabled := c.cache.enabled && !o.noCache }
    classifier := { c.classifier with
      model := o.model.getD c.classifier.model
      workers := o.workers.getD c.classifier.workers } }

/-- The settings of a run. -/
def resolve (o : Overrides) (w : Workspace) : Except Error Config :=
  match Config.load w (o.configPath.getD configFileName) with
  | .error e => .error e
  | .ok c => (o.apply c).checked

end Overrides

/-! ## The key of the classifier -/

/-- The name of the environment variable that holds the key. -/
def credentialName : String := "OPENAI_API_KEY"

/-- The key that the environment gives. -/
def credential : Option String → Except Error String
  | some key =>
    if (Text.trim key).isEmpty then .error (.missingCredential credentialName) else .ok key
  | none => .error (.missingCredential credentialName)

end SinkAudit

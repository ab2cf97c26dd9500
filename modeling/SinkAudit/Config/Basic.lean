import SinkAudit.Json.Printer
import SinkAudit.Json.Record

/-!
# Configuration

What can be set, with its defaults, and its form as a record.  Every field may be left out.

The same reader serves a JSON text and a configuration file.  The two differ in one point: where a
table of settings is given as a list of values, a configuration file may list more values than there
are settings.
-/

namespace SinkAudit

/-- Which files are scanned, and how. -/
structure ScanConfig where
  extensions : List String := ["js", "ts", "jsx", "tsx"]
  maxLineLength : Nat := 500
  contextLines : Nat := 5
  respectIgnoreFiles : Bool := false
  disabledRules : List String := []
  deriving DecidableEq, Repr, Inhabited

/-- Where verdicts are kept. -/
structure CacheConfig where
  enabled : Bool := true
  path : String := ".sinkscan-cache.jsonl"
  deriving DecidableEq, Repr, Inhabited

/-- Who is asked for verdicts, and how patiently. -/
structure ClassifierConfig where
  model : String := "gpt-4o-mini"
  endpoint : String := "https://api.openai.com/v1/chat/completions"
  timeoutSecs : Nat := 60
  maxRetries : Nat := 2
  initialBackoffMs : Nat := 500
  workers : Nat := 4
  deriving DecidableEq, Repr, Inhabited

/-- All settings. -/
structure Config where
  scan : ScanConfig := {}
  cache : CacheConfig := {}
  classifier : ClassifierConfig := {}
  deriving DecidableEq, Repr, Inhabited

namespace ScanConfig

/-- The names of the settings in their order. -/
def fieldNames : List String :=
  ["extensions", "max_line_length", "context_lines", "respect_gitignore", "disabled_rules"]

/-- The settings as a JSON value. -/
def toJson (c : ScanConfig) : Json :=
  .object [("extensions", .texts c.extensions), ("max_line_length", .ofNat c.maxLineLength),
    ("context_lines", .ofNat c.contextLines), ("respect_gitignore", .bool c.respectIgnoreFiles),
    ("disabled_rules", .texts c.disabledRules)]

/-- The settings that a value gives; those left out have their defaults. -/
def ofJson? (surplus : Bool) (v : Json) : Option ScanConfig := do
  let d : ScanConfig := {}
  let r ← Record.ofJson? fieldNames surplus v
  let extensions ← r.defaulted "extensions" (Json.list? Json.string?) d.extensions
  let maxLineLength ← r.defaulted "max_line_length" Json.word64? d.maxLineLength
  let contextLines ← r.defaulted "context_lines" Json.word64? d.contextLines
  let respectIgnoreFiles ← r.defaulted "respect_gitignore" Json.bool? d.respectIgnoreFiles
  let disabledRules ← r.defaulted "disabled_rules" (Json.list? Json.string?) d.disabledRules
  return ⟨extensions, maxLineLength, contextLines, respectIgnoreFiles, disabledRules⟩

end ScanConfig

namespace CacheConfig

/-- The names of the settings in their order. -/
def fieldNames : List String := ["enabled", "path"]

/-- The settings as a JSON value. -/
def toJson (c : CacheConfig) : Json :=
  .object [("enabled", .bool c.enabled), ("path", .text c.path)]

/-- The settings that a value gives; those left out have their defaults. -/
def ofJson? (surplus : Bool) (v : Json) : Option CacheConfig := do
  let d : CacheConfig := {}
  let r ← Record.ofJson? fieldNames surplus v
  let enabled ← r.defaulted "enabled" Json.bool? d.enabled
  let path ← r.defaulted "path" Json.string? d.path
  return ⟨enabled, path⟩

end CacheConfig

namespace ClassifierConfig

/-- The names of the settings in their order. -/
def fieldNames : List String :=
  ["model", "endpoint", "timeout_secs", "max_retries", "initial_backoff_ms", "workers"]

/-- The settings as a JSON value. -/
def toJson (c : ClassifierConfig) : Json :=
  .object [("model", .text c.model), ("endpoint", .text c.endpoint),
    ("timeout_secs", .ofNat c.timeoutSecs), ("max_retries", .ofNat c.maxRetries),
    ("initial_backoff_ms", .ofNat c.initialBackoffMs), ("workers", .ofNat c.workers)]

/-- The settings that a value gives; those left out have their defaults. -/
def ofJson? (surplus : Bool) (v : Json) : Option ClassifierConfig := do
  let d : ClassifierConfig := {}
  let r ← Record.ofJson? fieldNames surplus v
  let model ← r.defaulted "model" Json.string? d.model
  let endpoint ← r.defaulted "endpoint" Json.string? d.endpoint
  let timeoutSecs ← r.defaulted "timeout_secs" Json.word64? d.timeoutSecs
  let maxRetries ← r.defaulted "max_retries" Json.word32? d.maxRetries
  let initialBackoffMs ← r.defaulted "initial_backoff_ms" Json.word64? d.initialBackoffMs
  let workers ← r.defaulted "workers" Json.word64? d.workers
  return ⟨model, endpoint, timeoutSecs, maxRetries, initialBackoffMs, workers⟩

end ClassifierConfig

namespace Config

/-- The names of the groups of settings in their order. -/
def fieldNames : List String := ["scan", "cache", "classifier"]

/-- All settings as a JSON value. -/
def toJson (c : Config) : Json :=
  .object [("scan", c.scan.toJson), ("cache", c.cache.toJson), ("classifier", c.classifier.toJson)]

/-- The settings that a value gives; those left out have their defaults. -/
def ofJson? (surplus : Bool) (v : Json) : Option Config := do
  let r ← Record.ofJson? fieldNames surplus v
  let scan ← r.defaulted "scan" (ScanConfig.ofJson? surplus) {}
  let cache ← r.defaulted "cache" (CacheConfig.ofJson? surplus) {}
  let classifier ← r.defaulted "classifier" (ClassifierConfig.ofJson? surplus) {}
  return ⟨scan, cache, classifier⟩

end Config

end SinkAudit

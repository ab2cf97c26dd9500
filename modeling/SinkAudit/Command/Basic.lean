import SinkAudit.Command.Arguments
import SinkAudit.Config.Load
import SinkAudit.Text.Numeral
import SinkAudit.Word

/-!
# Commands

What the program can be asked to do, and how that is written as arguments.
-/

namespace SinkAudit

/-- The settings of a scan with its outputs. -/
structure ScanCommand where
  path : String
  /-- Also write the findings as a JSON file. -/
  writeJson : Bool
  overrides : Overrides
  format : String
  output : Option String
  report : String
  deriving Repr

/-- A thing that the program can be asked to do. -/
inductive Command where
  | scan (c : ScanCommand)
  | sinks (path : String) (config : Option String) (format : String)
  | listRules (format : String)
  | init (force : Bool)
  deriving Repr

namespace Command

/-- A value that is a path. -/
def isPath (s : String) : Bool := !s.isEmpty

/-- The number that a value is: decimal digits, perhaps after a plus sign, that fit a word. -/
def word? (s : String) : Option Nat :=
  let ds := match s.toList with
    | '+' :: r => r
    | cs => cs
  if ds.isEmpty || !ds.all Text.isDecimal || Word.count64 ≤ Text.numeral 10 ds then none
  else some (Text.numeral 10 ds)

/-- Any value. -/
def anyText : OptionAction := .value fun _ => true

/-- A path as a value. -/
def anyPath : OptionAction := .value isPath

/-- The options of every command. -/
def commonOptions : List OptionSpec :=
  [⟨"verbose", some 'v', .count⟩, ⟨"help", some 'h', .help⟩]

/-- The options before the name of a command. -/
def topOptions : List OptionSpec :=
  ⟨"version", some 'V', .version⟩ :: commonOptions

/-- The option for the configuration file. -/
def configOption : OptionSpec := ⟨"config", some 'c', anyPath⟩

/-- The option for the output format. -/
def formatOption : OptionSpec := ⟨"format", some 'f', anyText⟩

/-- The options of a scan. -/
def scanOptions : List OptionSpec :=
  [⟨"json", none, .set⟩, ⟨"no-cache", none, .set⟩, configOption, ⟨"model", none, anyText⟩,
    ⟨"workers", none, .value fun s => (word? s).isSome⟩, formatOption,
    ⟨"output", some 'o', anyPath⟩, ⟨"report", none, anyPath⟩] ++ commonOptions

/-- The format of a list when none is asked for. -/
def tableFormat : String := "table"

/-- The scan that arguments ask for. -/
def scanOf? (a : Arguments) : Option Command :=
  match a.operands with
  | [path] =>
    some (.scan
      { path := path
        writeJson := a.has "json"
        overrides :=
          { configPath := a.value? "config"
            noCache := a.has "no-cache"
            model := a.value? "model"
            workers := (a.value? "workers").bind word? }
        format := (a.value? "format").getD "console"
        output := a.value? "output"
        report := (a.value? "report").getD "SECURITY_REPORT.md" })
  | _ => none

/-- The list of candidates that arguments ask for. -/
def sinksOf? (a : Arguments) : Option Command :=
  match a.operands with
  | [path] => some (.sinks path (a.value? "config") ((a.value? "format").getD tableFormat))
  | _ => none

/-- Arguments of a command, read with its options and number of operands. -/
def withArguments (specs : List OptionSpec) (most : Nat) (words : List String)
    (build : Arguments → Option Command) : Except Stop Command :=
  match Arguments.parse specs most isPath words {} with
  | .error e => .error e
  | .ok a =>
    match build a with
    | some c => .ok c
    | none => .error .usage

/-- The names after which help can be asked for. -/
def names : List String := ["scan", "sinks", "list-rules", "init", "help"]

/-- Help, which may be asked for one command by its name. -/
def help : List String → Stop
  | [] => .help
  | [w] => if names.contains w then .help else .usage
  | _ => .usage

/-- The command with a name. -/
def named (name : String) (words : List String) : Except Stop Command :=
  match name with
  | "scan" => withArguments scanOptions 1 words scanOf?
  | "sinks" => withArguments ([configOption, formatOption] ++ commonOptions) 1 words sinksOf?
  | "list-rules" =>
    withArguments (formatOption :: commonOptions) 0 words fun a =>
      some (.listRules ((a.value? "format").getD tableFormat))
  | "init" =>
    withArguments (⟨"force", none, .set⟩ :: commonOptions) 0 words fun a =>
      some (.init (a.has "force"))
  | "help" => .error (help words)
  | _ => .error .usage

/-- The command that words ask for: options first, then a name with its own arguments. -/
def parse : List String → Except Stop Command
  | [] => .error .usage
  | w :: ws =>
    if w == "--" then .error .usage
    else if Arguments.isOption w then
      match Arguments.option topOptions w {} with
      | .error e => .error e
      | .ok _ => parse ws
    else named w ws

end Command

end SinkAudit

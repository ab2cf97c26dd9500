import SinkAudit.Error

/-!
# Arguments

The words after the name of a program: options, each with a long and perhaps a short form, and
operands.  An option that takes a value has it in the next word or attached to its own; short
options may share a word.  Two dashes end the options.  The words are read from left to right, and
reading stops at the first that is wrong or that asks for the version or for help.

* `OptionSpec`: an option that a program knows.
* `Arguments.parse`: the options and operands of a list of words.
-/

namespace SinkAudit

/-- What an option does. -/
inductive OptionAction where
  /-- It is given or not. -/
  | set
  /-- It may be given again and again. -/
  | count
  /-- It has a value, which has to satisfy a condition. -/
  | value (accepts : String → Bool)
  | version
  | help

/-- An option. -/
structure OptionSpec where
  long : String
  short : Option Char
  action : OptionAction

/-- Why reading stopped. -/
inductive Stop where
  | usage
  | version
  | help
  deriving DecidableEq, Repr

/-- The options and operands of a list of words, latest first. -/
structure Arguments where
  options : List (String × Option String) := []
  operands : List String := []
  deriving Repr

namespace Arguments

/-- Whether an option is given. -/
def has (a : Arguments) (long : String) : Bool :=
  a.options.any fun o => o.1 == long

/-- The value of an option. -/
def value? (a : Arguments) (long : String) : Option String :=
  (a.options.find? fun o => o.1 == long).bind (·.2)

/-- Adds an option, which may be given only once unless it counts. -/
def add (spec : OptionSpec) (value : Option String) (a : Arguments) : Except Stop Arguments :=
  match spec.action with
  | .version => .error .version
  | .help => .error .help
  | .count => .ok { a with options := (spec.long, value) :: a.options }
  | _ =>
    if a.has spec.long then .error .usage
    else .ok { a with options := (spec.long, value) :: a.options }

/-- Adds an option with its value. -/
def addValue (spec : OptionSpec) (accepts : String → Bool) (value : String) (a : Arguments) :
    Except Stop Arguments :=
  if accepts value then a.add spec (some value) else .error .usage

/-- Whether a word is an option rather than a value. -/
def isOption (word : String) : Bool := word.startsWith "-" && word != "-"

/-- An option that waits for its value. -/
structure Pending where
  spec : OptionSpec
  accepts : String → Bool

/-- Reads the short options of a word. -/
def shorts (specs : List OptionSpec) :
    List Char → Arguments → Except Stop (Option Pending × Arguments)
  | [], a => .ok (none, a)
  | c :: r, a =>
    match specs.find? fun s => s.short == some c with
    | none => .error .usage
    | some spec =>
      match spec.action with
      | .value accepts =>
        match r with
        | [] => .ok (some ⟨spec, accepts⟩, a)
        | '=' :: r => (a.addValue spec accepts (String.ofList r)).map (none, ·)
        | r => (a.addValue spec accepts (String.ofList r)).map (none, ·)
      | _ =>
        match a.add spec none with
        | .error e => .error e
        | .ok a => shorts specs r a

/-- Reads a long option, without its dashes. -/
def long (specs : List OptionSpec) (word : List Char) (a : Arguments) :
    Except Stop (Option Pending × Arguments) :=
  let name := String.ofList (word.takeWhile (· != '='))
  let attached := match word.dropWhile (· != '=') with
    | [] => none
    | _ :: v => some (String.ofList v)
  match specs.find? fun s => s.long == name with
  | none => .error .usage
  | some spec =>
    match spec.action, attached with
    | .value accepts, some v => (a.addValue spec accepts v).map (none, ·)
    | .value accepts, none => .ok (some ⟨spec, accepts⟩, a)
    | _, some _ => .error .usage
    | _, none => (a.add spec none).map (none, ·)

/-- Adds an operand; `most` is their number and `accepts` the condition on each. -/
def addOperand (most : Nat) (accepts : String → Bool) (word : String) (a : Arguments) :
    Except Stop Arguments :=
  if a.operands.length < most && accepts word then
    .ok { a with operands := word :: a.operands }
  else .error .usage

/-- Adds operands. -/
def addOperands (most : Nat) (accepts : String → Bool) :
    List String → Arguments → Except Stop Arguments
  | [], a => .ok a
  | w :: ws, a => (a.addOperand most accepts w).bind (addOperands most accepts ws)

/-- Reads an option word. -/
def option (specs : List OptionSpec) (word : String) (a : Arguments) :
    Except Stop (Option Pending × Arguments) :=
  match word.toList with
  | '-' :: '-' :: r => long specs r a
  | _ :: r => shorts specs r a
  | [] => .error .usage

/-- Reads words to the end. -/
def parse (specs : List OptionSpec) (most : Nat) (accepts : String → Bool) :
    List String → Arguments → Except Stop Arguments
  | [], a => .ok a
  | w :: ws, a =>
    if w == "--" then addOperands most accepts ws a
    else if isOption w then
      match option specs w a with
      | .error e => .error e
      | .ok (none, a) => parse specs most accepts ws a
      | .ok (some p, a) =>
        match ws with
        | [] => .error .usage
        | v :: vs =>
          if isOption v then .error .usage
          else
            match a.addValue p.spec p.accepts v with
            | .error e => .error e
            | .ok a => parse specs most accepts vs a
    else
      match a.addOperand most accepts w with
      | .error e => .error e
      | .ok a => parse specs most accepts ws a

end Arguments

end SinkAudit

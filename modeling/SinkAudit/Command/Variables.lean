import SinkAudit.Text.Character
import SinkAudit.Text.Letter
import SinkAudit.Text.Rows
import SinkAudit.Workspace.Basic

/-!
# Environment variables

A program is started with variables, and a file named `.env` may add further ones.  The file never
changes a variable that is set.  It is read row by row up to the first row that makes no sense, and
what was read until then stays.

* `Variables`: the variables of a program.
* `Variables.row`: the assignment in a row of the file.
* `Variables.extended`: the variables with those of the nearest file.
-/

namespace SinkAudit

/-- Variables with their values. -/
abbrev Variables := List (String × String)

namespace Variables

/-- The value of a variable. -/
def get? (vars : Variables) (name : String) : Option String :=
  (vars.find? fun v => v.1 == name).map (·.2)

/-! ## Rows -/

/-- Where a value stands while it is read. -/
inductive Mode where
  | plain
  /-- Between single quotes. -/
  | literal
  /-- Between double quotes. -/
  | quoted
  /-- Behind a value; only blanks and a comment may follow. -/
  | ended
  deriving DecidableEq

/-- A variable that is being named in a value. -/
inductive Naming where
  | none
  /-- After a dollar sign. -/
  | bare (name : List Char)
  /-- After a dollar sign and a brace. -/
  | braced (name : List Char)

/-- What is known while a value is read; characters stand latest first. -/
structure ValueState where
  mode : Mode := .plain
  escaped : Bool := false
  naming : Naming := .none
  text : List Char := []

/-- The character that a backslash and a character stand for. -/
def unescape? : Char → Option Char
  | '\\' => some '\\'
  | '\'' => some '\''
  | '"' => some '"'
  | '$' => some '$'
  | ' ' => some ' '
  | 'n' => some '\n'
  | _ => none

/-- The state with a value added for a name. -/
def substitute (lookup : String → String) (name : List Char) (s : ValueState) : ValueState :=
  { s with naming := .none, text := (lookup (String.ofList name.reverse)).toList.reverse ++ s.text }

/-- Reads one character outside of names, escapes and single quotes. -/
def readOuter (c : Char) (s : ValueState) : ValueState :=
  if c == '$' then { s with naming := .bare [] }
  else if c == '\\' then { s with escaped := true }
  else
    match s.mode with
    | .quoted => if c == '"' then { s with mode := .plain } else { s with text := c :: s.text }
    | _ =>
      if c == '\'' then { s with mode := .literal }
      else if c == '"' then { s with mode := .quoted }
      else if c == ' ' || c == '\t' then { s with mode := .ended }
      else { s with text := c :: s.text }

/-- Reads one character of a value; none if it cannot stand there. -/
def readChar? (lookup : String → String) (c : Char) (s : ValueState) : Option ValueState :=
  if s.escaped then
    (unescape? c).map fun d => { s with escaped := false, text := d :: s.text }
  else if s.mode == .literal then
    some (if c == '\'' then { s with mode := .plain } else { s with text := c :: s.text })
  else
    match s.naming with
    | .none => some (readOuter c s)
    | .bare name =>
      some (
        if Text.isLetterOrNumber c then { s with naming := .bare (c :: name) }
        else if c == '\x7b' && name.isEmpty then { s with naming := .braced [] }
        else
          let s := substitute lookup name s
          if c == '$' then { s with naming := .bare [] } else { s with text := c :: s.text })
    | .braced name =>
      some (
        if c == '\x7d' then substitute lookup name s
        else { s with naming := .braced (c :: name) })

/-- Reads a value to its end. -/
def readValue? (lookup : String → String) : ValueState → List Char → Option String
  | s, [] =>
    match s.mode, s.naming with
    | .literal, _ => none
    | .quoted, _ => none
    | _, .braced _ => none
    | _, .bare name => some (String.ofList (substitute lookup name s).text.reverse)
    | _, .none => some (String.ofList s.text.reverse)
  | s, c :: r =>
    if s.mode == .ended then
      if c == ' ' || c == '\t' then readValue? lookup s r
      else if c == '#' then readValue? lookup s []
      else none
    else
      match readChar? lookup c s with
      | some s => readValue? lookup s r
      | none => none

/-- A name at the front, with the rest. -/
def name? : List Char → Option (String × List Char)
  | [] => none
  | c :: r =>
    if c.isAlpha || c == '_' then
      let inside (c : Char) : Bool := c.isAlphanum || c == '_' || c == '.'
      some (String.ofList (c :: r.takeWhile inside), r.dropWhile inside)
    else none

/-- What a row of the file is. -/
inductive Row where
  | nothing
  | assign (name value : String)
  | bad

/-- The value after an equals sign. -/
def assignment (lookup : String → String) (name : String) (r : List Char) : Row :=
  let r := r.dropWhile Text.isBlank
  match r with
  | [] => .assign name ""
  | '#' :: _ => .assign name ""
  | r =>
    match readValue? lookup {} r with
    | some v => .assign name v
    | none => .bad

/-- Reads a row: a name, perhaps after the word `export`, an equals sign and a value. -/
def row (lookup : String → String) (text : String) : Row :=
  let cs := (Text.dropEndWhile Text.isBlank text.toList).dropWhile Text.isBlank
  match cs with
  | [] => .nothing
  | '#' :: _ => .nothing
  | cs =>
    match name? cs with
    | none => .bad
    | some (name, r) =>
      match r.dropWhile Text.isBlank with
      | '=' :: r => assignment lookup name r
      | r =>
        if name != "export" then .bad
        else
          match name? r with
          | none => .bad
          | some (name, r) =>
            match r.dropWhile Text.isBlank with
            | '=' :: r => assignment lookup name r
            | _ => .bad

/-! ## Files -/

/-- The value that a name has in a value: of a variable, or of an earlier row. -/
def lookup (vars : Variables) (rows : Variables) (name : String) : String :=
  match vars.get? name with
  | some v => v
  | none => (rows.get? name).getD ""

/-- Adds the variables of rows; `rows` are the assignments so far, latest first. -/
def addRows (vars rows : Variables) : List String → Variables
  | [] => vars
  | t :: ts =>
    match row (lookup vars rows) t with
    | .nothing => addRows vars rows ts
    | .bad => vars
    | .assign name value =>
      let rows := (name, value) :: rows
      match vars.get? name with
      | some _ => addRows vars rows ts
      | none => addRows (vars ++ [(name, value)]) rows ts

/-- The name of the file. -/
def fileName : String := ".env"

/-- The content of the file in a directory or the nearest one above that has it. -/
def find? (w : Workspace) : Place → Option ByteArray
  | [] =>
    match w.read (Path.join "/" fileName) with
    | .ok bytes => some bytes
    | .error _ => none
  | k :: p =>
    match w.read (Path.join (Workspace.placeText (k :: p)) fileName) with
    | .ok bytes => some bytes
    | .error .notFound => find? w p
    | .error .isDirectory => find? w p
    | .error _ => none

/-- The variables with those of the nearest file added. -/
def extended (vars : Variables) (w : Workspace) : Variables :=
  match find? w w.home with
  | none => vars
  | some bytes => addRows vars [] (Text.textRows bytes)

end Variables

end SinkAudit

import SinkAudit.Toml.Scalar
import SinkAudit.Toml.Token

/-!
# Reading a document

A document is a list of statements, one a line; a line feed between brackets ends none.  A
statement is a header, a repeated header, or an assignment, and the assignments after a header
belong to it.

* `TomlReader.value`: a value at the front of a list of tokens.
* `TomlReader.statement?`: a statement.
* `Toml.parse?`: the document that a text is.
-/

namespace SinkAudit

namespace TomlReader

/-- The tokens after a blank. -/
def dropBlank : List TomlToken → List TomlToken
  | .blank _ :: r => r
  | ts => ts

/-- Whether a token takes no room in an array. -/
def isFiller : TomlToken → Bool
  | .blank _ => true
  | .newline => true
  | _ => false

/-- Whether a character may stand in a key without quotes. -/
def isKeyChar (c : Char) : Bool := c.isAlphanum || c == '_' || c == '-'

/-- The most parts that a key may have. -/
def maxParts : Nat := 79

/-- The most arrays and tables that may be nested in a value. -/
def maxDepth : Nat := 79

/-- The part of a key that a token is. -/
def keyPart? : TomlToken → Option String
  | .bare cs => if cs.all isKeyChar then some (String.ofList cs) else none
  | .quoted s => some s
  | _ => none

/-- A dotted key of at most the given number of parts, and the tokens after it and its blanks. -/
def key : Nat → List TomlToken → Option (List String × List TomlToken)
  | 0, _ => none
  | n + 1, ts =>
    match dropBlank ts with
    | [] => none
    | t :: r =>
      match keyPart? t, dropBlank r with
      | none, _ => none
      | some k, .dot :: r => (key n r).map fun p => (k :: p.1, p.2)
      | some k, r => some ([k], r)

/-- The characters of tokens that make up a number or a moment, and the tokens after it.  A date
and a time may have a single space between them. -/
def run : List TomlToken → List Char × List TomlToken
  | .bare cs :: r =>
    if Toml.isDate cs then
      match r with
      | .blank [' '] :: .bare ds :: r =>
        let (fs, r) := run (.bare ds :: r)
        (cs ++ ' ' :: fs, r)
      | r => (cs, r)
    else
      let (fs, r) := run r
      (cs ++ fs, r)
  | .dot :: r =>
    let (fs, r) := run r
    ('.' :: fs, r)
  | ts => ([], ts)

mutual

/-- A value, and the tokens after it.  `fuel` bounds the number of steps and `depth` the nesting. -/
def value : Nat → Nat → List TomlToken → Option (Toml × List TomlToken)
  | 0, _, _ => none
  | fuel + 1, depth, ts =>
    match ts, depth with
    | .quoted s :: r, _ => some (.text s, r)
    | .block s :: r, _ => some (.text s, r)
    | .openBracket :: r, d + 1 => (items fuel d [] r).map fun p => (.array p.1, p.2)
    | .openBrace :: r, d + 1 =>
      match dropBlank r with
      | .closeBrace :: r => some (.inline [], r)
      | r => (entries fuel d [] r).map fun p => (.inline p.1, p.2)
    | ts, _ => (Toml.scalar? (run ts).1).map (·, (run ts).2)

/-- The items of an array up to its bracket; a comma may follow the last. -/
def items : Nat → Nat → List Toml → List TomlToken → Option (List Toml × List TomlToken)
  | 0, _, _, _ => none
  | fuel + 1, depth, sofar, ts =>
    match ts.dropWhile isFiller with
    | .closeBracket :: r => some (sofar.reverse, r)
    | ts =>
      match value fuel depth ts with
      | none => none
      | some (v, r) =>
        match r.dropWhile isFiller with
        | .comma :: r => items fuel depth (v :: sofar) r
        | .closeBracket :: r => some ((v :: sofar).reverse, r)
        | _ => none

/-- The entries of a table up to its brace, at least one. -/
def entries : Nat → Nat → Toml.Entries → List TomlToken → Option (Toml.Entries × List TomlToken)
  | 0, _, _, _ => none
  | fuel + 1, depth, sofar, ts =>
    match key maxParts ts with
    | some (path, .equals :: r) =>
      match value fuel depth (dropBlank r) with
      | none => none
      | some (v, r) =>
        match sofar.assign path v .header, dropBlank r with
        | some es, .comma :: r => entries fuel depth es r
        | some es, .closeBrace :: r => some (es, r)
        | _, _ => none
    | _ => none

end

/-- A statement. -/
inductive Statement where
  | header (path : List String)
  | row (path : List String)
  | assign (path : List String) (v : Toml)

/-- The statement that the tokens of a line are. -/
def statement? (ts : List TomlToken) : Option Statement :=
  match dropBlank ts with
  | .openBracket :: .openBracket :: r =>
    match key maxParts r with
    | some (path, .closeBracket :: .closeBracket :: r) =>
      if (dropBlank r).isEmpty then some (.row path) else none
    | _ => none
  | .openBracket :: r =>
    match key maxParts r with
    | some (path, .closeBracket :: r) =>
      if (dropBlank r).isEmpty then some (.header path) else none
    | _ => none
  | ts =>
    match key maxParts ts with
    | some (path, .equals :: r) =>
      match value (2 * r.length + 1) maxDepth (dropBlank r) with
      | some (v, r) => if (dropBlank r).isEmpty then some (.assign path v) else none
      | none => none
    | _ => none

/-- How a token changes the number of open brackets. -/
def nesting (depth : Nat) : TomlToken → Nat
  | .openBracket => depth + 1
  | .openBrace => depth + 1
  | .closeBracket => depth - 1
  | .closeBrace => depth - 1
  | _ => depth

/-- The lines of a document, without line feeds outside brackets. -/
def lines : Nat → List TomlToken → List TomlToken → List (List TomlToken)
  | _, sofar, [] => [sofar.reverse]
  | 0, sofar, .newline :: r => sofar.reverse :: lines 0 [] r
  | depth, sofar, t :: r => lines (nesting depth t) (t :: sofar) r

/-- The statements of lines; a line with nothing but a blank has none. -/
def statements? : List (List TomlToken) → Option (List Statement)
  | [] => some []
  | ts :: r =>
    if (dropBlank ts).isEmpty then statements? r
    else
      match statement? ts, statements? r with
      | some s, some ss => some (s :: ss)
      | _, _ => none

/-- The assignments before the first header. -/
def front : List Statement → List (List String × Toml)
  | .assign path v :: r => (path, v) :: front r
  | _ => []

/-- Adds the tables of all headers. -/
def addAll : List Statement → Toml.Entries → Option Toml.Entries
  | [], es => some es
  | .assign _ _ :: r, es => addAll r es
  | .header path :: r, es => (es.addTable path (front r)).bind (addAll r)
  | .row path :: r, es => (es.addRow path (front r)).bind (addAll r)

end TomlReader

/-- The document that a text is. -/
def Toml.parse? (s : String) : Option Toml.Entries :=
  match TomlToken.tokens? s with
  | none => none
  | some ts =>
    match TomlReader.statements? (TomlReader.lines 0 [] ts) with
    | none => none
    | some ss => (Toml.Entries.assignAll (TomlReader.front ss) []).bind (TomlReader.addAll ss)

end SinkAudit

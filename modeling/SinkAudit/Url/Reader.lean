import SinkAudit.Url.Host

/-!
# Reading an address

Blanks and controls around an address are left out, and so are tabs and line endings within.  The
web's own schemes are lenient: any number of slashes or backslashes leads to the host, and there has
to be one.  With another scheme a host stands only after exactly two slashes.
-/

namespace SinkAudit

namespace UrlReader

/-- How the text after a scheme is read. -/
inductive SchemeKind where
  | web
  | file
  | other
  deriving DecidableEq

/-- The kind of a scheme. -/
def kind (scheme : String) : SchemeKind :=
  if scheme == "file" then .file
  else if ["http", "https", "ws", "wss", "ftp"].contains scheme then .web
  else .other

/-- The characters of an address. -/
def clean (s : String) : List Char :=
  let outer (c : Char) : Bool := c ≤ ' '
  let cs := ((s.toList.dropWhile outer).reverse.dropWhile outer).reverse
  cs.filter fun c => c != '\t' && c != '\n' && c != '\r'

/-- Whether a character may follow the first of a scheme. -/
def isSchemeChar (c : Char) : Bool :=
  c.isAlphanum || c == '+' || c == '-' || c == '.'

/-- The scheme and what follows its colon. -/
def scheme? (cs : List Char) : Option (String × List Char) :=
  match cs with
  | [] => none
  | c :: _ =>
    if !c.isAlpha then none
    else
      match cs.dropWhile isSchemeChar with
      | ':' :: r => some (String.ofList ((cs.takeWhile isSchemeChar).map Char.toLower), r)
      | _ => none

/-- Whether a character ends the part of an address that holds the host. -/
def endsAuthority (kind : SchemeKind) (c : Char) : Bool :=
  c == '/' || c == '?' || c == '#' || (kind != .other && c == '\\')

/-- What stands before and after the last character that is an at sign. -/
def splitLastAt (cs : List Char) : Option (List Char × List Char) :=
  let back := cs.reverse
  match back.dropWhile (· != '@') with
  | [] => none
  | _ :: r => some (r.reverse, (back.takeWhile (· != '@')).reverse)

/-- The host and what follows it: the end of the part or a colon outside brackets. -/
def splitHost (kind : SchemeKind) (inside : Bool) : List Char → List Char × List Char
  | [] => ([], [])
  | c :: r =>
    if endsAuthority kind c || (c == ':' && !inside) then ([], c :: r)
    else
      let inside := if c == '[' then true else if c == ']' then false else inside
      let (h, t) := splitHost kind inside r
      (c :: h, t)

/-- Reads the digits of a port. -/
def portFrom : Nat → List Char → Except UrlFault Nat
  | n, [] => .ok n
  | n, c :: r =>
    if Text.isDecimal c then
      let n := n * 10 + Text.digitValue c
      if 65535 < n then .error .invalidPort else portFrom n r
    else if c == '/' || c == '\\' || c == '?' || c == '#' then .ok n
    else .error .invalidPort

/-- The port after a colon. -/
def port (cs : List Char) : Except UrlFault (Option Nat) :=
  match portFrom 0 cs with
  | .error e => .error e
  | .ok n => .ok (if (cs.takeWhile Text.isDecimal).isEmpty then none else some n)

/-- Whether the text before an at sign gives a name or a password. -/
def hasUser (user : List Char) : Bool := !(user.isEmpty || user == [':'])

/-- The host of a scheme. -/
def host (kind : SchemeKind) (cs : List Char) : Except UrlFault Host :=
  match kind with
  | .other => Host.parseOther cs
  | _ => if cs.isEmpty then .error .emptyHost else Host.parse cs

/-- The host with its port, from the front of what follows the user. -/
def hostAndPort (kind : SchemeKind) (cs : List Char) : Except UrlFault (Host × Option Nat) :=
  let (h, rest) := splitHost kind false cs
  match host kind h with
  | .error e => .error e
  | .ok host =>
    match rest with
    | ':' :: rest =>
      if host == .absent then .error .emptyHost else (port rest).map fun p => (host, p)
    | _ => .ok (host, none)

/-- What follows the two slashes. -/
def authority (kind : SchemeKind) (cs : List Char) : Except UrlFault (Host × Option Nat) :=
  let front := cs.takeWhile fun c => !endsAuthority kind c
  match splitLastAt front with
  | none => hostAndPort kind cs
  | some (user, after) =>
    let rest := cs.drop (user.length + 1)
    if user.isEmpty && after.isEmpty && !rest.isEmpty then .error .emptyHost
    else
      match hostAndPort kind rest with
      | .error e => .error e
      | .ok (h, p) => if h == .absent && hasUser user then .error .emptyHost else .ok (h, p)

/-- Whether the characters are a letter and a colon or a bar, which name a drive. -/
def isDrive : List Char → Bool
  | [a, b] => a.isAlpha && (b == ':' || b == '|')
  | _ => false

/-- Whether a character is a slash or a backslash. -/
def isSlash (c : Char) : Bool := c == '/' || c == '\\'

/-- The host of a file, after the scheme. -/
def fileHost (cs : List Char) : Except UrlFault Host :=
  match cs with
  | a :: b :: r =>
    if isSlash a && isSlash b then
      let h := r.takeWhile fun c => !(isSlash c || c == '?' || c == '#')
      if h.isEmpty || isDrive h then .ok .absent
      else
        match Host.parse h with
        | .ok (.name "localhost") => .ok .absent
        | r => r
    else .ok .absent
  | _ => .ok .absent

/-- The host and port after a scheme. -/
def afterScheme (kind : SchemeKind) (cs : List Char) : Except UrlFault (Host × Option Nat) :=
  match kind with
  | .file => (fileHost cs).map (·, none)
  | .web => authority .web (cs.dropWhile isSlash)
  | .other =>
    match cs with
    | '/' :: '/' :: r => authority .other r
    | _ => .ok (.absent, none)

end UrlReader

/-- The address that a text is. -/
def Url.parse (s : String) : Except UrlFault Url :=
  match UrlReader.scheme? (UrlReader.clean s) with
  | none => .error .relative
  | some (scheme, r) =>
    match UrlReader.afterScheme (UrlReader.kind scheme) r with
    | .error e => .error e
    | .ok (host, port) => .ok ⟨scheme, host, port⟩

end SinkAudit

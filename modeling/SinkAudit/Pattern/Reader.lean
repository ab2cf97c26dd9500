import SinkAudit.Pattern.Written
import SinkAudit.Text.Letter
import SinkAudit.Text.Numeral
import SinkAudit.Word

/-!
# Reading a pattern

The text of a pattern is read from left to right.  The reader keeps the parts of the group that it
is in, and a frame for every group and every list of branches that is still open.

A repetition applies to the part before it and is refused where there is none.  Parentheses and
brackets have to be closed, a closing parenthesis needs an open one, and the ends of a range have to
be in order.  A backslash before punctuation takes the character as it is; before a letter it has to
form one of the known escapes.

In the verbose form, blanks and comments between the parts are skipped; `verbose` says so to the
functions that care.

* `escape?`: what a backslash introduces.
* `bracket?`: a set between brackets.
* `Written.parse?`: the written pattern of a text.
-/

namespace SinkAudit.Pattern

/-! ## Blanks -/

/-- Drops blanks and comments; `inComment` says that one has begun. -/
def dropComments (inComment : Bool) : List Char → List Char
  | [] => []
  | c :: r =>
    if inComment then dropComments (c != '\n') r
    else if Text.isBlank c then dropComments false r
    else if c == '#' then dropComments true r
    else c :: r

/-- Drops blanks and comments in the verbose form. -/
def skip (verbose : Bool) (s : List Char) : List Char :=
  if verbose then dropComments false s else s

/-- The next character that counts, past blanks and the mark of one comment. -/
def firstSolid (inComment : Bool) : List Char → Option Char
  | [] => none
  | c :: r =>
    if Text.isBlank c then firstSolid inComment r
    else if c == '#' && !inComment then firstSolid true r
    else some c

/-- The character ahead, past blanks in the verbose form. -/
def ahead (verbose : Bool) (s : List Char) : Option Char :=
  if verbose then firstSolid false s <|> s.head? else s.head?

/-! ## Escapes -/

/-- What a backslash introduces, or any other single thing. -/
inductive Primitive where
  | letter (l : Letter)
  | dot
  | anchor (a : Anchor)
  | shorthand (s : Shorthand) (negated : Bool)
  | property (p : PropertyName) (negated : Bool)

/-- A character as such. -/
def Primitive.plain (c : Char) : Primitive := .letter ⟨c, false⟩

/-- The characters up to a closing brace; `fuel` bounds their number. -/
def braced? (verbose : Bool) : Nat → List Char → List Char → Option (List Char × List Char)
  | 0, _, _ => none
  | _ + 1, _, [] => none
  | fuel + 1, sofar, c :: r =>
    if c == '\x7d' then some (sofar.reverse, r)
    else braced? verbose fuel (c :: sofar) (skip verbose r)

/-- A fixed number of hexadecimal digits. -/
def hexDigits? (verbose : Bool) : Nat → List Char → List Char → Option (List Char × List Char)
  | 0, sofar, s => some (sofar.reverse, s)
  | _ + 1, _, [] => none
  | n + 1, sofar, c :: r =>
    if (Text.hexDigit? c).isSome then hexDigits? verbose n (c :: sofar) (skip verbose r) else none

/-- The character whose code point hexadecimal digits write, if there are any. -/
def hexChar? (ds : List Char) : Option Char :=
  if ds.isEmpty || ds.any (fun d => (Text.hexDigit? d).isNone) then none
  else
    let n := Text.numeral 16 ds
    if n.isValidChar then some (Char.ofNat n) else none

/-- A code point written with `width` hexadecimal digits, or between braces with any number. -/
def hexEscape? (verbose : Bool) (width : Nat) (s : List Char) : Option (Primitive × List Char) :=
  match skip verbose s with
  | '\x7b' :: r => do
    let (ds, rest) ← braced? verbose (r.length + 1) [] (skip verbose r)
    return (.plain (← hexChar? ds), skip verbose rest)
  | s => do
    let (ds, rest) ← hexDigits? verbose width [] s
    return (.letter ⟨← hexChar? ds, width == 2⟩, rest)

/-- The text before the first occurrence of a mark, and the text after it. -/
def cutAt? (mark : List Char) (sofar : List Char) : List Char → Option (List Char × List Char)
  | [] => none
  | c :: r =>
    if mark.isPrefixOf (c :: r) then some (sofar.reverse, (c :: r).drop mark.length)
    else cutAt? mark (c :: sofar) r

/-- The property that is named between braces, and whether it is denied there. -/
def propertyName (s : List Char) : PropertyName × Bool :=
  match cutAt? "!=".toList [] s with
  | some (k, v) => (⟨String.ofList k, some (String.ofList v)⟩, true)
  | none =>
    match cutAt? ":".toList [] s <|> cutAt? "=".toList [] s with
    | some (k, v) => (⟨String.ofList k, some (String.ofList v)⟩, false)
    | none => (⟨String.ofList s, none⟩, false)

/-- A property by a letter or between braces. -/
def property? (verbose negated : Bool) (s : List Char) : Option (Primitive × List Char) :=
  match skip verbose s with
  | [] => none
  | '\x7b' :: r => do
    let (name, rest) ← braced? verbose (r.length + 1) [] (skip verbose r)
    let (p, denied) := propertyName name
    return (.property p (negated != denied), rest)
  | '\\' :: _ => none
  | c :: r => some (.property ⟨c.toString, none⟩ negated, skip verbose r)

/-- Whether a character can stand in the name of a word boundary. -/
def isBoundaryChar (c : Char) : Bool := c.isAlpha || c == '-'

/-- The letters of a name between braces; `fuel` bounds their number. -/
def boundaryName (verbose : Bool) : Nat → List Char → List Char → List Char × List Char
  | 0, sofar, s => (sofar.reverse, s)
  | _ + 1, sofar, [] => (sofar.reverse, [])
  | fuel + 1, sofar, c :: r =>
    if isBoundaryChar c then boundaryName verbose fuel (c :: sofar) (skip verbose r)
    else (sofar.reverse, c :: r)

/-- The word boundary with a name. -/
def boundaryNamed? : String → Option Anchor
  | "start" => some .wordStart
  | "end" => some .wordEnd
  | "start-half" => some .noWordBefore
  | "end-half" => some .noWordAfter
  | _ => none

/-- A word boundary, perhaps with a name between braces; braces with a number are a repetition. -/
def boundary? (verbose : Bool) (s : List Char) : Option (Primitive × List Char) :=
  match s with
  | '\x7b' :: r =>
    match skip verbose r with
    | [] => none
    | c :: r' =>
      if !isBoundaryChar c then some (.anchor .boundary, s)
      else
        match boundaryName verbose (r'.length + 1) [] (c :: r') with
        | (name, '\x7d' :: rest) =>
          (boundaryNamed? (String.ofList name)).map fun a => (.anchor a, rest)
        | _ => none
  | _ => some (.anchor .boundary, s)

/-- Whether a backslash before the character takes it as it is. -/
def isPlainEscape (c : Char) : Bool :=
  c.toNat < 0x80 && !c.isAlphanum && c != '<' && c != '>'

/-- Reads what follows a backslash. -/
def escape? (verbose : Bool) : List Char → Option (Primitive × List Char)
  | [] => none
  | 's' :: r => some (.shorthand .blank false, r)
  | 'S' :: r => some (.shorthand .blank true, r)
  | 'd' :: r => some (.shorthand .digit false, r)
  | 'D' :: r => some (.shorthand .digit true, r)
  | 'w' :: r => some (.shorthand .word false, r)
  | 'W' :: r => some (.shorthand .word true, r)
  | 'p' :: r => property? verbose false r
  | 'P' :: r => property? verbose true r
  | 'a' :: r => some (.plain '\x07', r)
  | 'f' :: r => some (.plain '\x0c', r)
  | 't' :: r => some (.plain '\t', r)
  | 'n' :: r => some (.plain '\n', r)
  | 'r' :: r => some (.plain '\r', r)
  | 'v' :: r => some (.plain '\x0b', r)
  | 'A' :: r => some (.anchor .textStart, r)
  | 'z' :: r => some (.anchor .textEnd, r)
  | 'b' :: r => boundary? verbose r
  | 'B' :: r => some (.anchor .noBoundary, r)
  | '<' :: r => some (.anchor .wordStart, r)
  | '>' :: r => some (.anchor .wordEnd, r)
  | 'x' :: r => hexEscape? verbose 2 r
  | 'u' :: r => hexEscape? verbose 4 r
  | 'U' :: r => hexEscape? verbose 8 r
  | c :: r => if isPlainEscape c then some (.plain c, r) else none

/-! ## Brackets -/

/-- One thing between brackets. -/
def bracketItem? (verbose : Bool) : List Char → Option (Primitive × List Char)
  | [] => none
  | '\\' :: r => escape? verbose r
  | c :: r => some (.plain c, r)

/-- A thing between brackets that stands for itself. -/
def Primitive.item? : Primitive → Option ClassItem
  | .letter l => some (.letter l)
  | .shorthand s negated => some (.shorthand s negated)
  | .property p negated => some (.property p negated)
  | .dot => none
  | .anchor _ => none

/-- A range, or one thing alone. -/
def bracketRange? (verbose : Bool) (s : List Char) : Option (ClassItem × List Char) :=
  match bracketItem? verbose s with
  | none => none
  | some (e, r) =>
    match skip verbose r with
    | [] => none
    | '-' :: r' =>
      if ahead verbose r' == some ']' || ahead verbose r' == some '-' then
        e.item?.map (·, '-' :: r')
      else
        match e, bracketItem? verbose (skip verbose r') with
        | .letter a, some (.letter b, rest) =>
          if a.char ≤ b.char then some (.range a b, rest) else none
        | _, _ => none
    | r' => e.item?.map (·, r')

/-- A named ASCII class such as `[:alpha:]`, the opening bracket already read. -/
def asciiClass? : List Char → Option (ClassItem × List Char)
  | ':' :: r =>
    let (negated, r) := match r with
      | '^' :: r' => (true, r')
      | _ => (false, r)
    let name := r.takeWhile (· != ':')
    match r.dropWhile (· != ':'), CharClass.named? (String.ofList name) with
    | ':' :: ']' :: rest, some s => some (.ascii s negated, rest)
    | _, _ => none
  | _ => none

/-- An open bracket, or an operation that waits for its right side. -/
inductive ClassFrame where
  | opened (before : List (Nested ClassItem)) (negated : Bool)
  | op (kind : SetOp) (left : Nested ClassItem)

/-- A dash as an item. -/
def dash : Nested ClassItem := .leaf (.letter ⟨'-', false⟩)

/-- The dashes that stand at the front of a bracket; `fuel` bounds their number. -/
def dashes (verbose : Bool) : Nat → List (Nested ClassItem) → List Char →
    List (Nested ClassItem) × List Char
  | fuel + 1, sofar, '-' :: r => dashes verbose fuel (dash :: sofar) (skip verbose r)
  | _, sofar, s => (sofar, s)

/-- What opens a bracket: whether it is negated, and the characters that are taken as they are
because they come first. -/
def bracketStart (verbose : Bool) (s : List Char) :
    Bool × List (Nested ClassItem) × List Char :=
  let (negated, r) := match skip verbose s with
    | '^' :: r => (true, skip verbose r)
    | r => (false, r)
  match dashes verbose r.length [] r with
  | ([], ']' :: r') => (negated, [.leaf (.letter ⟨']', false⟩)], skip verbose r')
  | (items, r') => (negated, items, r')

/-- The set of the pending operation, if there is one, with its right side. -/
def applyOp? (right : Nested ClassItem) : List ClassFrame →
    Option (Nested ClassItem × List ClassFrame)
  | .op kind left :: up =>
    if max left.depth right.depth < maxDepth then
      some (⟨.op kind left.part right.part, max left.depth right.depth + 1⟩, up)
    else none
  | up => some (right, up)

/-- The operation at the front of a text. -/
def setOp? : List Char → Option (SetOp × List Char)
  | '&' :: '&' :: r => some (.inter, r)
  | '-' :: '-' :: r => some (.diff, r)
  | '~' :: '~' :: r => some (.symmDiff, r)
  | _ => none

/-- Reads the rest of a bracket: `items` are those of the innermost open bracket, latest first.
`fuel` is at least the length of the text. -/
def bracketFrom? (verbose : Bool) : Nat → List (Nested ClassItem) → List ClassFrame → List Char →
    Option (Nested Written × List Char)
  | 0, _, _, _ => none
  | fuel + 1, items, up, s =>
    match skip verbose s with
    | [] => none
    | '[' :: r =>
      match asciiClass? r with
      | some (i, rest) => bracketFrom? verbose fuel (.leaf i :: items) up rest
      | none =>
        let (negated, first, r) := bracketStart verbose r
        bracketFrom? verbose fuel first (.opened items negated :: up) r
    | ']' :: r =>
      match (union? items).bind (applyOp? · up) with
      | some (set, [.opened _ negated]) =>
        (set.around? (Written.bracket negated)).map (·, r)
      | some (set, .opened before negated :: up) =>
        match set.around? (ClassItem.bracket negated) with
        | some b => bracketFrom? verbose fuel (b :: before) up r
        | none => none
      | _ => none
    | s =>
      match setOp? s with
      | some (kind, r) =>
        match (union? items).bind (applyOp? · up) with
        | some (left, up) => bracketFrom? verbose fuel [] (.op kind left :: up) r
        | none => none
      | none =>
        match bracketRange? verbose s with
        | some (i, rest) => bracketFrom? verbose fuel (.leaf i :: items) up rest
        | none => none

/-- Reads a bracket whose opening character has been read. -/
def bracket? (verbose : Bool) (s : List Char) : Option (Nested Written × List Char) :=
  let (negated, first, r) := bracketStart verbose s
  bracketFrom? verbose (s.length + 1) first [.opened [] negated] r

/-! ## Repetitions -/

/-- The largest count that may be written in a repetition. -/
def maxCount : Nat := Word.count32 - 1

/-- The digits at the front; `fuel` bounds their number. -/
def countDigits (verbose : Bool) : Nat → List Char → List Char → List Char × List Char
  | fuel + 1, sofar, c :: r =>
    if c.isDigit then countDigits verbose fuel (c :: sofar) (skip verbose r)
    else (sofar.reverse, c :: r)
  | _, sofar, s => (sofar.reverse, s)

/-- Drops blanks, and comments after them in the verbose form. -/
def dropBlanks (verbose : Bool) (s : List Char) : List Char :=
  match s with
  | [] => []
  | c :: _ => if Text.isBlank c then skip verbose (s.dropWhile Text.isBlank) else s

/-- A decimal number with blanks around it; none where no digit is written. -/
def count? (verbose : Bool) (s : List Char) : Option (Nat × List Char) :=
  let s := s.dropWhile Text.isBlank
  let (ds, rest) := countDigits verbose s.length [] s
  let n := Text.numeral 10 ds
  if ds.isEmpty ∨ maxCount < n then none else some (n, dropBlanks verbose rest)

/-- Whether a question mark makes a repetition take as few copies as possible. -/
def greed (s : List Char) : Bool × List Char :=
  match s with
  | '?' :: r => (false, r)
  | r => (true, r)

/-- Reads a counted repetition whose opening brace has been read. -/
def counted? (verbose : Bool) (s : List Char) : Option (Repetition × List Char) :=
  let finish (least : Nat) (most : Option Nat) (r : List Char) : Option (Repetition × List Char) :=
    let (greedy, rest) := greed (skip verbose r)
    some (⟨least, most, greedy⟩, rest)
  match count? verbose (skip verbose s) with
  | none => none
  | some (n, '\x7d' :: r) => finish n (some n) r
  | some (n, ',' :: r) =>
    match skip verbose r with
    | '\x7d' :: r' => finish n none r'
    | r' =>
      match count? verbose r' with
      | some (m, '\x7d' :: r'') => if n ≤ m then finish n (some m) r'' else none
      | _ => none
  | some _ => none

/-- The repetition at the front of a text. -/
def repetition? (verbose : Bool) : List Char → Option (Repetition × List Char)
  | '*' :: r => let (g, r) := greed r; some (⟨0, none, g⟩, r)
  | '+' :: r => let (g, r) := greed r; some (⟨1, none, g⟩, r)
  | '?' :: r => let (g, r) := greed r; some (⟨0, some 1, g⟩, r)
  | '\x7b' :: r => counted? verbose r
  | _ => none

/-! ## Groups -/

/-- Whether a character may stand in the name of a group. -/
def isNameChar (first : Bool) (c : Char) : Bool :=
  if first then c == '_' || Text.isLetter c
  else c == '_' || c == '.' || c == '[' || c == ']' || Text.isLetterOrNumber c

/-- The name of a group up to its closing mark. -/
def groupName? (s : List Char) : Option (String × List Char) :=
  match s.takeWhile (· != '>'), s.dropWhile (· != '>') with
  | c :: name, _ :: rest =>
    if isNameChar true c && name.all (isNameChar false) then
      some (String.ofList (c :: name), rest)
    else none
  | _, _ => none

/-- The switch of a letter. -/
def switch? : Char → Option Switch
  | 'i' => some .caseless
  | 'm' => some .multiLine
  | 's' => some .dotAll
  | 'U' => some .swapGreed
  | 'u' => some .unicode
  | 'R' => some .carriageReturn
  | 'x' => some .verbose
  | _ => none

/-- Switches up to a colon or a parenthesis; `off` says that a dash has been read. -/
def switches? (off : Bool) (sofar : Switches) : List Char → Option (Switches × Char × List Char)
  | [] => none
  | ':' :: r => some (sofar.reverse, ':', r)
  | ')' :: r => some (sofar.reverse, ')', r)
  | '-' :: r =>
    match r with
    | [] => none
    | c :: _ => if off || c == ':' || c == ')' then none else switches? true sofar r
  | c :: r =>
    match switch? c with
    | some s => if sofar.any (·.1 == s) then none else switches? off ((s, !off) :: sofar) r
    | none => none

/-- What a parenthesis opens. -/
inductive Opening where
  | capture
  | named (name : String)
  | plain (switches : Switches)
  /-- No group, but switches for what comes after. -/
  | switches (s : Switches)

/-- Reads what opens a group, the parenthesis already read. -/
def opening? (s : List Char) : Option (Opening × List Char) :=
  match s with
  | '?' :: '=' :: _ => none
  | '?' :: '!' :: _ => none
  | '?' :: '<' :: '=' :: _ => none
  | '?' :: '<' :: '!' :: _ => none
  | '?' :: 'P' :: '<' :: r => (groupName? r).map fun (n, rest) => (.named n, rest)
  | '?' :: '<' :: r => (groupName? r).map fun (n, rest) => (.named n, rest)
  | '?' :: r =>
    match switches? false [] r with
    | some (s, ':', rest) => some (.plain s, rest)
    | some ([], _, _) => none
    | some (s, _, rest) => some (.switches s, rest)
    | none => none
  | r => some (.capture, r)

/-- The position of a switch, if it is given. -/
def position? (k : Switch) : Switches → Option Bool
  | [] => none
  | (s, on) :: r => if s == k then some on else position? k r

/-! ## The reader -/

/-- A group or a list of branches that is still open. -/
inductive Frame where
  | group (before : List (Nested Written)) (capture : Option Nat) (switches : Switches)
      (verbose : Bool)
  | branches (done : List (Nested Written))

/-- The state of the reader: the parts read since the last bar or parenthesis, latest first, what is
still open, and the names of groups. -/
structure Reader where
  items : List (Nested Written) := []
  frames : List Frame := []
  verbose : Bool := false
  captures : Nat := 0
  names : List String := []

namespace Reader

/-- Adds a part. -/
def push (x : Reader) (p : Nested Written) : Reader := { x with items := p :: x.items }

/-- Opens a group. -/
def openGroup (x : Reader) (capture : Option Nat) (s : Switches) : Reader :=
  { x with
    items := []
    frames := .group x.items capture s x.verbose :: x.frames
    verbose := (position? .verbose s).getD x.verbose }

/-- Opens what a parenthesis opens; no two groups may have the same name. -/
def opened? (x : Reader) : Opening → Option Reader
  | .capture => some { x.openGroup (some (x.captures + 1)) [] with captures := x.captures + 1 }
  | .named name =>
    if x.names.contains name then none
    else some { x.openGroup (some (x.captures + 1)) [] with
      captures := x.captures + 1
      names := name :: x.names }
  | .plain s => some (x.openGroup none s)
  | .switches s =>
    some { x.push (.leaf (.switches s)) with verbose := (position? .verbose s).getD x.verbose }

/-- Ends a branch. -/
def bar? (x : Reader) : Option Reader :=
  match concat? x.items, x.frames with
  | some p, .branches done :: up => some { x with items := [], frames := .branches (p :: done) :: up }
  | some p, up => some { x with items := [], frames := .branches [p] :: up }
  | none, _ => none

/-- Ends the branches of the innermost group. -/
def settle? (x : Reader) : Option (Nested Written × List Frame) :=
  match concat? x.items, x.frames with
  | some p, .branches done :: up => (alternation? (p :: done)).map (·, up)
  | some p, up => some (p, up)
  | none, _ => none

/-- Closes a group. -/
def close? (x : Reader) : Option Reader :=
  match x.settle? with
  | some (p, .group before capture s verbose :: up) =>
    (p.around? (Written.group capture s)).map fun g =>
      { x with items := g :: before, frames := up, verbose := verbose }
  | _ => none

/-- Repeats the last part, which may not be missing or a switch. -/
def repeat? (x : Reader) (r : Repetition) : Option Reader :=
  match x.items with
  | [] => none
  | p :: ps =>
    match p.part with
    | .empty => none
    | .switches _ => none
    | _ => (p.around? (Written.repetition r)).map fun q => { x with items := q :: ps }

/-- The part of a single thing. -/
def primitive : Primitive → Nested Written
  | .letter l => .leaf (.letter l)
  | .dot => .leaf .dot
  | .anchor a => .leaf (.anchor a)
  | .shorthand s negated => .leaf (.shorthand s negated)
  | .property p negated => .leaf (.property p negated)

/-- Reads one thing. -/
def step? (x : Reader) (s : List Char) : Option (Reader × List Char) :=
  match s with
  | [] => none
  | '(' :: r =>
    match opening? (skip x.verbose r) with
    | some (o, rest) => (x.opened? o).map (·, rest)
    | none => none
  | ')' :: r => x.close?.map (·, r)
  | '|' :: r => x.bar?.map (·, r)
  | '[' :: r => (bracket? x.verbose r).map fun (b, rest) => (x.push b, rest)
  | '.' :: r => some (x.push (.leaf .dot), r)
  | '^' :: r => some (x.push (.leaf (.anchor .lineStart)), r)
  | '$' :: r => some (x.push (.leaf (.anchor .lineEnd)), r)
  | '\\' :: r => (escape? x.verbose r).map fun (p, rest) => (x.push (primitive p), rest)
  | c :: r =>
    if c == '*' || c == '+' || c == '?' || c == '\x7b' then
      match repetition? x.verbose s with
      | some (q, rest) => (x.repeat? q).map (·, rest)
      | none => none
    else some (x.push (primitive (.plain c)), r)

/-- Reads a text to its end; everything that is read takes at least one character, so the length of
the text is fuel enough. -/
def run? : Nat → Reader → List Char → Option Reader
  | 0, x, s => if (skip x.verbose s).isEmpty then some x else none
  | fuel + 1, x, s =>
    match skip x.verbose s with
    | [] => some x
    | s =>
      match x.step? s with
      | some (y, rest) => run? fuel y rest
      | none => none

end Reader

/-- The written pattern of a text. -/
def Written.parse? (text : List Char) : Option Written :=
  match (Reader.run? text.length {} text).bind Reader.settle? with
  | some (p, []) => some p.part
  | _ => none

end SinkAudit.Pattern

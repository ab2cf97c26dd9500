import SinkAudit.Text.Numeral
import SinkAudit.Toml.Basic
import SinkAudit.Word

/-!
# Numbers, truth values and moments of a document

The values that are written without quotes and brackets.  Digits may be grouped by single
underscores.  An integer has 64 bits; a number with a fraction or an exponent has to be below the
range of a double.  A moment is a date, a time, or both with an offset or without.
-/

namespace SinkAudit.Toml

/-- The digits of a run in which single underscores may stand between digits. -/
def grouped (isDigit : Char → Bool) : List Char → Option (List Char)
  | [] => none
  | [c] => if isDigit c then some [c] else none
  | c :: '_' :: r => if isDigit c then (grouped isDigit r).map (c :: ·) else none
  | c :: r => if isDigit c then (grouped isDigit r).map (c :: ·) else none

/-- A sign, if there is one, and what follows it. -/
def signed : List Char → Bool × List Char
  | '-' :: r => (true, r)
  | '+' :: r => (false, r)
  | cs => (false, cs)

/-- The digits of a decimal Text.numeral, which has no needless zero in front. -/
def decimal? (cs : List Char) : Option (List Char) :=
  match grouped Text.isDecimal cs with
  | some ('0' :: _ :: _) => none
  | some ds => if cs.head? == some '0' && cs.length != 1 then none else some ds
  | none => none

/-- Half the number of 64-bit words: the integers are those from its negative up to below it. -/
def halfWord : Nat := Word.count64 / 2

/-- An integer in its range. -/
def inRange? (negative : Bool) (n : Nat) : Option Int :=
  if negative then (if n ≤ halfWord then some (-(n : Int)) else none)
  else if n < halfWord then some (n : Int) else none

/-- The integer that a run of characters is. -/
def integer? (cs : List Char) : Option Int :=
  match cs with
  | '0' :: 'x' :: r => ((grouped (Text.isDigitOf 16) r).map (Text.numeral 16)).bind (inRange? false)
  | '0' :: 'o' :: r => ((grouped (Text.isDigitOf 8) r).map (Text.numeral 8)).bind (inRange? false)
  | '0' :: 'b' :: r => ((grouped (Text.isDigitOf 2) r).map (Text.numeral 2)).bind (inRange? false)
  | cs =>
    let (negative, r) := signed cs
    ((decimal? r).map (Text.numeral 10)).bind (inRange? negative)

/-- The exponent that a run of characters is. -/
def exponent? (cs : List Char) : Option Int :=
  let (negative, r) := signed cs
  (grouped Text.isDecimal r).map fun ds =>
    if negative then -(Text.numeral 10 ds : Int) else (Text.numeral 10 ds : Int)

/-- The text before the first character of a kind, and the text after it if there is one. -/
def cutAt (p : Char → Bool) (cs : List Char) : List Char × Option (List Char) :=
  (cs.takeWhile fun c => !p c,
    match cs.dropWhile fun c => !p c with
    | [] => none
    | _ :: r => some r)

/-- The number with a fraction or an exponent that a run of characters is. -/
def real? (cs : List Char) : Option Number :=
  let (negative, r) := signed cs
  if r == "inf".toList || r == "nan".toList then some (.real negative 0 0)
  else
    let (mantissa, power) := cutAt (fun c => c == 'e' || c == 'E') r
    let (whole, fraction) := cutAt (· == '.') mantissa
    if power.isNone && fraction.isNone then none
    else
      match decimal? whole, (fraction.map (grouped Text.isDecimal)).getD (some []),
          (power.map exponent?).getD (some 0) with
      | some ws, some fs, some e =>
        let x := Number.real negative (Text.numeral 10 (ws ++ fs)) (e - fs.length)
        if x.isFinite || negative then some x else none
      | _, _, _ => none

/-! ## Moments -/

/-- The number of the digits of a run of a fixed length, between bounds. -/
def digits? (count low high : Nat) (cs : List Char) : Option Nat :=
  if cs.length == count && cs.all Text.isDecimal then
    let n := Text.numeral 10 cs
    if low ≤ n && n ≤ high then some n else none
  else none

/-- The number of days of a month. -/
def monthDays (year month : Nat) : Nat :=
  if month == 2 then
    if year % 4 == 0 && (year % 100 != 0 || year % 400 == 0) then 29 else 28
  else if month == 4 || month == 6 || month == 9 || month == 11 then 30
  else 31

/-- Whether a run of characters is a date. -/
def isDate : List Char → Bool
  | [a, b, c, d, '-', e, f, '-', g, h] =>
    match digits? 4 0 9999 [a, b, c, d], digits? 2 1 12 [e, f], digits? 2 1 31 [g, h] with
    | some y, some m, some day => day ≤ monthDays y m
    | _, _, _ => false
  | _ => false

/-- The rest after a time of the day. -/
def dropTime? : List Char → Option (List Char)
  | a :: b :: ':' :: c :: d :: ':' :: e :: f :: r =>
    match digits? 2 0 23 [a, b], digits? 2 0 59 [c, d], digits? 2 0 60 [e, f] with
    | some _, some _, some _ =>
      match r with
      | '.' :: r =>
        if (r.takeWhile Text.isDecimal).isEmpty then none else some (r.dropWhile Text.isDecimal)
      | r => some r
    | _, _, _ => none
  | _ => none

/-- Whether a run of characters is an offset, or empty. -/
def isOffset : List Char → Bool
  | [] => true
  | ['Z'] => true
  | ['z'] => true
  | [s, a, b, ':', c, d] =>
    (s == '+' || s == '-') && (digits? 2 0 23 [a, b]).isSome && (digits? 2 0 59 [c, d]).isSome
  | _ => false

/-- Whether a run of characters is a time with an offset or without. -/
def isOffsetTime (cs : List Char) : Bool :=
  match dropTime? cs with
  | some r => isOffset r
  | none => false

/-- Whether a run of characters is a moment. -/
def isMoment (cs : List Char) : Bool :=
  isDate cs || dropTime? cs == some [] ||
    (isDate (cs.take 10) &&
      match cs.drop 10 with
      | c :: r => (c == 'T' || c == 't' || c == ' ') && isOffsetTime r
      | [] => false)

/-- The value that a run of characters is. -/
def scalar? (cs : List Char) : Option Toml :=
  if cs == "true".toList then some (.bool true)
  else if cs == "false".toList then some (.bool false)
  else if isMoment cs then some (.moment (String.ofList cs))
  else
    match integer? cs, real? cs with
    | some n, _ => some (.integer n)
    | none, some x => some (.real x)
    | none, none => none

end SinkAudit.Toml

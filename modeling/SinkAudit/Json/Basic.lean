import SinkAudit.Word

/-!
# JSON values

A value as it is written: members stand in their order and a name may occur twice; what that means
is for the reader of a record to say.

A text may contain an escaped half of a surrogate pair.  Such a text is well formed but stands for
no string, and a reader that passes over it need not care; so a text is an optional string.  In the
same way a number is kept as it is written, without a range.
-/

namespace SinkAudit

/-- A written number: a natural number, one with a minus sign (`-0` included), or one with a
fraction or an exponent, worth `digits * 10 ^ exponent`. -/
inductive Number where
  | nat (n : Nat)
  | minus (n : Nat)
  | real (negative : Bool) (digits : Nat) (exponent : Int)
  deriving DecidableEq, Repr, Inhabited

/-- A JSON value. -/
inductive Json where
  | null
  | bool (b : Bool)
  | num (n : Number)
  | str (text : Option String)
  | arr (items : List Json)
  | obj (members : List (Option String × Json))
  deriving Repr, Inhabited

namespace Json

/-- A string as a value. -/
def text (s : String) : Json := str (some s)

/-- A natural number as a value. -/
def ofNat (n : Nat) : Json := num (.nat n)

/-- An object from named members. -/
def object (members : List (String × Json)) : Json :=
  obj (members.map fun m => (some m.1, m.2))

/-- A list of strings as a value. -/
def texts (l : List String) : Json := arr (l.map text)

/-- A string or nothing. -/
def textOrNull : Option String → Json
  | some s => text s
  | none => null

/-- The string of a value. -/
def string? : Json → Option String
  | str t => t
  | _ => none

/-- The truth value of a value. -/
def bool? : Json → Option Bool
  | bool b => some b
  | _ => none

/-- The natural number below `bound` that a value is.  It has to be written without sign, fraction
and exponent. -/
def natBelow? (bound : Nat) : Json → Option Nat
  | num (.nat n) => if n < bound then some n else none
  | _ => none

/-- The 64-bit word that a value is. -/
def word64? : Json → Option Nat := natBelow? Word.count64

/-- The 32-bit word that a value is. -/
def word32? : Json → Option Nat := natBelow? Word.count32

/-- The results of a reader on every item, if it accepts them all. -/
def all? (read : Json → Option α) : List Json → Option (List α)
  | [] => some []
  | v :: vs =>
    match read v, all? read vs with
    | some a, some as => some (a :: as)
    | _, _ => none

/-- The items of an array, each accepted by a reader. -/
def list? (read : Json → Option α) : Json → Option (List α)
  | arr items => all? read items
  | _ => none

end Json

namespace Number

/-- The least number whose nearest double is infinite. -/
def limit : Nat := Nat.pow 2 1024 - Nat.pow 2 970

/-- Whether a number is in the range of a double: its nearest double is finite. -/
def isFinite : Number → Bool
  | nat n => n < limit
  | minus n => n < limit
  | real _ digits exponent =>
    digits == 0 ||
      match exponent with
      | .ofNat e => e < 400 && digits * Nat.pow 10 e < limit
      | .negSucc e =>
        -- a number with fewer digits than places after the point is below one
        (toString digits).length ≤ e + 1 || digits < limit * Nat.pow 10 (e + 1)

/-- Adds decimal digits to a significand as long as it stays a 64-bit word, and counts the digits
that are left over. -/
def takeDigits : Nat → List Char → Nat × Nat
  | s, [] => (s, 0)
  | s, d :: ds =>
    let t := 10 * s + (d.toNat - '0'.toNat)
    if t < Word.count64 then takeDigits t ds else (s, ds.length + 1)

/-- A number with a fraction or an exponent, of which a 64-bit word of digits is kept.  A digit that
is left over before the point still counts as a place, and one after the point does not. -/
def ofDigits (negative : Bool) (whole fraction : List Char) (exponent : Int) : Number :=
  let (s, places) := takeDigits 0 whole
  let (t, rest) := takeDigits s fraction
  real negative t (exponent + places - (fraction.length - rest : Nat))

/-- The largest power of ten that is a double. -/
def maxPower : Nat := 308

/-- Whether a significand times a power of ten is finite, both factors and the product rounded to
doubles. -/
def isFiniteProduct (significand power : Nat) : Bool :=
  if power ≤ maxPower then
    (Float.ofNat significand * Float.ofScientific 1 false power).isFinite
  else significand == 0

/-- Whether a whole number can be read as a double. -/
def isWholeReadable (n : Nat) : Bool :=
  n < Word.count64 ||
    let (s, places) := takeDigits 0 (toString n).toList
    isFiniteProduct s places

/-- Whether a written number can be read as a double, by way of its significand. -/
def isReadable : Number → Bool
  | nat n => isWholeReadable n
  | minus n => isWholeReadable n
  | real _ digits (.ofNat e) => isFiniteProduct digits e
  | real _ _ (.negSucc _) => true

end Number

namespace Json

mutual

/-- Whether every text in a value stands for a string and every number is in range. -/
def isConcrete : Json → Bool
  | null => true
  | bool _ => true
  | num n => n.isReadable
  | str t => t.isSome
  | arr items => allConcrete items
  | obj members => membersConcrete members

/-- The same for a list of values. -/
def allConcrete : List Json → Bool
  | [] => true
  | v :: vs => v.isConcrete && allConcrete vs

/-- The same for a list of members. -/
def membersConcrete : List (Option String × Json) → Bool
  | [] => true
  | (k, v) :: ms => k.isSome && v.isConcrete && membersConcrete ms

end

mutual

/-- How many arrays and objects are nested in a value. -/
def depth : Json → Nat
  | null => 0
  | bool _ => 0
  | num _ => 0
  | str _ => 0
  | arr items => depthOfItems items + 1
  | obj members => depthOfMembers members + 1

/-- The largest depth in a list of values. -/
def depthOfItems : List Json → Nat
  | [] => 0
  | v :: vs => max v.depth (depthOfItems vs)

/-- The largest depth in a list of members. -/
def depthOfMembers : List (Option String × Json) → Nat
  | [] => 0
  | (_, v) :: ms => max v.depth (depthOfMembers ms)

end

end Json

end SinkAudit

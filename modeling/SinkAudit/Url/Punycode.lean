import SinkAudit.Word

/-!
# Encoded labels

A label with characters beyond ASCII can be written in ASCII: the ASCII characters come first, then a
dash, then digits that say which other characters stand where.  The digits form numbers in which
weights grow with the place, and each number is the distance from one character to the next, first by
code point and then by place.

* `Punycode.decode?`: the label that an encoded one stands for.
-/

namespace SinkAudit.Punycode

/-- The value of a digit: letters first, then decimal digits. -/
def digit? (c : Char) : Option Nat :=
  if 'a' ≤ c && c ≤ 'z' then some (c.toNat - 'a'.toNat)
  else if 'A' ≤ c && c ≤ 'Z' then some (c.toNat - 'A'.toNat)
  else if '0' ≤ c && c ≤ '9' then some (c.toNat - '0'.toNat + 26)
  else none

/-- The least digit value at a place that does not end a number. -/
def threshold (place bias : Nat) : Nat :=
  if place ≤ bias then 1 else if bias + 26 ≤ place then 26 else place - bias

/-- Divides until the number is small; `fuel` bounds the number of divisions. -/
def shrink : Nat → Nat → Nat → Nat × Nat
  | 0, delta, k => (delta, k)
  | fuel + 1, delta, k => if 455 < delta then shrink fuel (delta / 35) (k + 36) else (delta, k)

/-- The bias for the next number. -/
def adapt (delta points : Nat) (first : Bool) : Nat :=
  let d := if first then delta / 700 else delta / 2
  let (d, k) := shrink 64 (d + d / points) 0
  k + 36 * d / (d + 38)

/-- A number of digits with growing weights, and the digits after it.  No sum and no weight may be too
large for a word. -/
def number? (bias : Nat) : Nat → Nat → Nat → List Char → Option (Nat × List Char)
  | _, _, _, [] => none
  | place, weight, sum, c :: r =>
    match digit? c with
    | none => none
    | some d =>
      let sum := sum + d * weight
      let t := threshold place bias
      if Word.count32 ≤ sum then none
      else if d < t then some (sum, r)
      else if Word.count32 ≤ weight * (36 - t) then none
      else number? bias (place + 36) (weight * (36 - t)) sum r

/-- Puts the encoded characters into their places; `fuel` bounds their number. -/
def place? : Nat → Nat → Nat → Nat → List Char → List Char → Option (List Char)
  | _, _, _, _, label, [] => some label
  | 0, _, _, _, _, _ :: _ => none
  | fuel + 1, code, index, bias, label, digits =>
    match number? bias 36 1 0 digits with
    | none => none
    | some (delta, rest) =>
      let size := label.length + 1
      let i := index + delta
      let code := code + i / size
      if Word.count32 ≤ i ∨ ¬ code.isValidChar then none
      else
        let spot := i % size
        place? fuel code (spot + 1) (adapt delta size (index == 0))
          (label.take spot ++ Char.ofNat code :: label.drop spot) rest

/-- The label that an encoded one stands for, without its mark.  A dash has to have a character before
it. -/
def decode? (cs : List Char) : Option (List Char) :=
  let back := cs.reverse
  let digits := (back.takeWhile (· != '-')).reverse
  match (back.dropWhile (· != '-')).reverse with
  | ['-'] => none
  | front => place? (digits.length + 1) 128 0 72 front.dropLast digits

end SinkAudit.Punycode

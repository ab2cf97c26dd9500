import SinkAudit.Text.Numeral
import SinkAudit.Url.Label

/-!
# Domain names

A domain name is compared without regard to case, to width and form, and to some invisible
characters.  `Domain.name?` gives the name with these differences removed, and refuses a name that
has characters no domain has, or a label that is none.
-/

namespace SinkAudit.Domain

/-- The bytes with each percent sign and two digits after it read as one byte. -/
def percentDecode : List UInt8 → List UInt8
  | 37 :: a :: b :: r =>
    match Text.hexDigit? (Char.ofNat a.toNat), Text.hexDigit? (Char.ofNat b.toNat) with
    | some m, some n => UInt8.ofNat (m * 16 + n) :: percentDecode r
    | _, _ => 37 :: percentDecode (a :: b :: r)
  | b :: r => b :: percentDecode r
  | [] => []

/-- Whether an ASCII character is one that no name has. -/
def isDenied (c : Char) : Bool :=
  c ≤ ' ' || c == '\x7f' || "%#/:<>?@[\\]^|".toList.contains c

/-- The labels of a name; `sofar` is what has been read of the first, latest first. -/
def labels (sofar : List Char) : List Char → List (List Char)
  | [] => [sofar.reverse]
  | c :: r => if c == '.' then sofar.reverse :: labels [] r else labels (c :: sofar) r

/-- Whether labels, with their characters decoded, may form a name. -/
def areLabels (ls : List (List Char)) : Bool :=
  ls.all Label.isSound &&
    (!(ls.any fun l => l.any fun c => Label.isRightward (.of c)) || ls.all Label.keepsDirection)

/-- The name that a text stands for. -/
def name? (s : String) : Option (List Char) :=
  match String.fromUTF8? (percentDecode s.toUTF8.toList).toByteArray with
  | none => none
  | some t =>
    match (mapChars? t.toList).map Text.compose with
    | none => none
    | some cs =>
      if cs.any isDenied then none
      else
        match (labels [] cs).mapM Label.decode? with
        | some ls => if areLabels ls then some cs else none
        | none => none

end SinkAudit.Domain

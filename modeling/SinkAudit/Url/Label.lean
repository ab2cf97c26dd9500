import SinkAudit.Text.Direction
import SinkAudit.Text.Joining
import SinkAudit.Text.Mark
import SinkAudit.Text.Normal
import SinkAudit.Url.Mapping
import SinkAudit.Url.Punycode

/-!
# Labels of domain names

A label is what stands between two dots.  It may not begin with a mark, the invisible characters that
keep letters apart or together may stand only where they show, and a name with characters that are
written from right to left must not mix directions in a label.

A label that begins with `xn--` is an encoded one, and what it encodes has to be a label as well.

* `Label.decode?`: the characters of a label.
* `Label.isSound`: whether the characters may form a label.
* `Label.keepsDirection`: whether a label mixes no directions.
-/

namespace SinkAudit.Label

/-! ## Encoded labels -/

/-- The longest text that is decoded. -/
def maxEncoded : Nat := 2000

/-- The longest label with characters beyond ASCII. -/
def maxLength : Nat := 1000

/-- Whether a character is an ASCII character. -/
def isAscii (c : Char) : Bool := c.toNat < 0x80

/-- The characters of a label.  An encoded one has to need the encoding, and what it encodes has to be
written in the one form that names are compared in. -/
def decode? (cs : List Char) : Option (List Char) :=
  match cs with
  | 'x' :: 'n' :: '-' :: '-' :: r =>
    if r.length ≤ maxEncoded && r.all isAscii then
      match Punycode.decode? r with
      | none => none
      | some l =>
        if !l.all isAscii && l.all Domain.isPlain && Text.compose l == l then some l else none
    else none
  | _ => if cs.all isAscii || cs.length ≤ maxLength then some cs else none

/-! ## Joiners -/

/-- The class of the marks that take the vowel from a letter. -/
def vowelKiller : Nat := 9

/-- Whether the character before, if there is one, takes the vowel from a letter. -/
def afterVowelKiller : List Char → Bool
  | [] => false
  | c :: _ => Text.order c == vowelKiller

/-- Whether the first character that others do not join across satisfies a condition. -/
def joinsAcross (joins : Char → Bool) (s : List Char) : Bool :=
  match s.dropWhile Text.Joining.isTransparent with
  | [] => false
  | c :: _ => joins c

/-- Whether all joiners of a label show; `before` is what has been read, latest first.  One that keeps
letters apart has to stand between letters that would join, and both kinds may follow a mark that
takes the vowel from a letter. -/
def joinersShow (before : List Char) : List Char → Bool
  | [] => true
  | c :: r =>
    let shows :=
      if c == '\u200c' then
        afterVowelKiller before ||
          (joinsAcross Text.Joining.joinsNext before && joinsAcross Text.Joining.joinsPrevious r)
      else if c == '\u200d' then afterVowelKiller before
      else true
    shows && joinersShow (c :: before) r

/-- Whether characters may form a label. -/
def isSound (cs : List Char) : Bool :=
  !(cs.head?.any Text.isMark) && joinersShow [] cs

/-! ## Direction -/

open Text (Direction)

/-- Whether a character makes its name one in which direction counts. -/
def isRightward (d : Direction) : Bool :=
  d == .rightToLeft || d == .arabicLetter || d == .arabicNumber

/-- Whether a direction may stand in a label of either kind. -/
def isShared (d : Direction) : Bool :=
  d == .europeanNumber || d == .signSeparator || d == .commonSeparator || d == .terminator ||
    d == .neutral || d == .boundaryNeutral || d == .mark

/-- Whether directions form a label that is written from left to right, the last of them given
without the marks behind it. -/
def runsRight (middle : List Direction) (last : Direction) : Bool :=
  (last == .leftToRight || last == .europeanNumber) &&
    middle.all fun d => d == .leftToRight || isShared d

/-- Whether directions form a label that is written from right to left, the last of them given
without the marks behind it.  Digits are of one kind. -/
def runsLeft (middle : List Direction) (last : Direction) : Bool :=
  (isRightward last || last == .europeanNumber) &&
    (middle.all fun d => isRightward d || isShared d) &&
    !((last :: middle).contains .europeanNumber && (last :: middle).contains .arabicNumber)

/-- Whether a label mixes no directions. -/
def keepsDirection (cs : List Char) : Bool :=
  match cs.map Direction.of with
  | [] => true
  | first :: rest =>
    let body := rest.reverse.dropWhile (· == .mark)
    if first == .leftToRight then
      match body with
      | [] => true
      | last :: middle => runsRight middle last
    else if first == .rightToLeft || first == .arabicLetter then
      match body with
      | [] => true
      | last :: middle => runsLeft middle last
    else false

end SinkAudit.Label

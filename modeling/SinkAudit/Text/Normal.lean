import SinkAudit.Text.Composition

/-!
# The composed form of a text

Many characters can be written in two ways, as one character or as a letter with marks behind it, and
marks that do not touch each other can be written in any order.  `compose` gives all these ways one
form: everything is taken apart, the marks are put in order, and what forms one character is put
together.

The syllables of Korean are made of two or three letters by a rule.
-/

namespace SinkAudit.Text

/-! ## Korean syllables -/

/-- The first syllable. -/
def syllableBase : Nat := 0xAC00

/-- The first leading consonant. -/
def leadBase : Nat := 0x1100

/-- The first vowel. -/
def vowelBase : Nat := 0x1161

/-- The code point before the first closing consonant. -/
def tailBase : Nat := 0x11A7

/-- The number of leading consonants. -/
def leadCount : Nat := 19

/-- The number of vowels. -/
def vowelCount : Nat := 21

/-- The number of ways to close a syllable, with none of the consonants or with one. -/
def tailCount : Nat := 28

/-- The letters of a syllable. -/
def syllableLetters? (n : Nat) : Option (List Nat) :=
  if n < syllableBase ∨ syllableBase + leadCount * vowelCount * tailCount ≤ n then none
  else
    let i := n - syllableBase
    let open_ := [leadBase + i / (vowelCount * tailCount), vowelBase + i / tailCount % vowelCount]
    if i % tailCount = 0 then some open_ else some (open_ ++ [tailBase + i % tailCount])

/-- The syllable of two letters, or of a syllable and a closing consonant. -/
def syllable? (a b : Nat) : Option Nat :=
  if leadBase ≤ a ∧ a < leadBase + leadCount ∧ vowelBase ≤ b ∧ b < vowelBase + vowelCount then
    some (syllableBase + ((a - leadBase) * vowelCount + (b - vowelBase)) * tailCount)
  else if syllableBase ≤ a ∧ a < syllableBase + leadCount * vowelCount * tailCount ∧
      (a - syllableBase) % tailCount = 0 ∧ tailBase < b ∧ b < tailBase + tailCount then
    some (a + (b - tailBase))
  else none

/-! ## Taking apart -/

/-- The two characters that a character stands for. -/
def parts? (n : Nat) : Option (Nat × Nat) :=
  compositions.findSome? fun c =>
    (c.pairs.find? fun p => p.2 == n).map fun p => (p.1, c.second)

/-- How often a character can be taken apart. -/
def maxParts : Nat := 4

/-- The letters and marks that a character stands for; `fuel` bounds how often it is taken apart. -/
def takeApart : Nat → Nat → List Nat
  | 0, n => [n]
  | fuel + 1, n =>
    match syllableLetters? n with
    | some l => l
    | none =>
      match parts? n with
      | some (a, b) => takeApart fuel a ++ [b]
      | none => [n]

/-! ## The order of marks -/

/-- Marks in order, given and returned latest first. -/
def sortedMarks (marks : List Char) : List Char :=
  (marks.reverse.mergeSort fun a b => order a ≤ order b).reverse

/-- Puts marks in order; `marks` are those since the last character that is not moved, latest
first, and `done` is what comes before them. -/
def sortMarks (done marks : List Char) : List Char → List Char
  | [] => (sortedMarks marks ++ done).reverse
  | c :: r =>
    if order c = 0 then sortMarks (c :: (sortedMarks marks ++ done)) [] r
    else sortMarks done (c :: marks) r

/-! ## Putting together -/

/-- The character that two characters form. -/
def composite? (a b : Char) : Option Char :=
  match syllable? a.toNat b.toNat with
  | some n => some (Char.ofNat n)
  | none =>
    ((compositions.find? fun c => c.second == b.toNat).bind fun c =>
      c.pairs.find? fun p => p.1 == a.toNat).map fun p => Char.ofNat p.2

/-- Puts characters together: `starter` is the last character that is not moved, `marks` are those
behind it that did not join it, and `done` is what comes before it, all latest first. -/
def putTogether (done : List Char) (starter : Char) (marks : List Char) : List Char → List Char
  | [] => (marks ++ starter :: done).reverse
  | c :: r =>
    let free :=
      match marks with
      | [] => true
      | m :: _ => order m < order c
    match if free then composite? starter c else none with
    | some s => putTogether done s marks r
    | none =>
      if order c = 0 then putTogether (marks ++ starter :: done) c [] r
      else putTogether done starter (c :: marks) r

/-- The characters from the first one on that is not moved, put together. -/
def putAllTogether (done : List Char) : List Char → List Char
  | [] => done.reverse
  | c :: r => if order c = 0 then putTogether done c [] r else putAllTogether (c :: done) r

/-- The composed form of a text. -/
def compose (s : List Char) : List Char :=
  putAllTogether []
    (sortMarks [] [] (s.flatMap fun c => (takeApart maxParts c.toNat).map Char.ofNat))

end SinkAudit.Text

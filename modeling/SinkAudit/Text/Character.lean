/-!
# Characters

Sets of characters are given by closed ranges of code points in increasing order.

A character is blank when it has the Unicode property `White_Space`.  The same set decides what
`trim` removes and what `\s` stands for in a pattern, so that a pattern which reaches across blanks
sees no difference between a line and its trimmed form.

The words a user may type (severities, report formats) are compared after their letters have been
turned to lower case.  All words are ASCII, and besides the twenty-six capitals only two characters
have a lower-case form that contains an ASCII letter: the Kelvin sign becomes `k`, and the capital
`I` with a dot becomes `i` followed by a combining dot.  Every other character either is its own
lower case or turns into characters that occur in no keyword, so it can stay as it is.

* `inRanges`: membership in one of a list of ranges.
* `blankRanges`, `isBlank`: the blank characters.
* `trimChars`, `trim`: the text without the blanks at its two ends.
* `keyword`: the form in which a text is compared with a keyword.
-/

namespace SinkAudit.Text

/-- Whether a number lies in one of the ranges, which are in order. -/
def inRanges (n : Nat) : List (Nat × Nat) → Bool
  | [] => false
  | r :: rs => r.1 ≤ n && (n ≤ r.2 || inRanges n rs)

/-! ## Blanks -/

/-- The code points with property `White_Space`, as closed ranges. -/
def blankRanges : List (Nat × Nat) :=
  [(0x0009, 0x000D), (0x0020, 0x0020), (0x0085, 0x0085), (0x00A0, 0x00A0), (0x1680, 0x1680),
   (0x2000, 0x200A), (0x2028, 0x2029), (0x202F, 0x202F), (0x205F, 0x205F), (0x3000, 0x3000)]

/-- Whether a character has property `White_Space`. -/
def isBlank (c : Char) : Bool :=
  blankRanges.any fun r => r.1 ≤ c.toNat && c.toNat ≤ r.2

/-- The list without the longest run of characters at its end that satisfy `p`. -/
def dropEndWhile (p : Char → Bool) (s : List Char) : List Char :=
  (s.reverse.dropWhile p).reverse

/-- The characters without the blanks at the two ends. -/
def trimChars (s : List Char) : List Char :=
  dropEndWhile isBlank (s.dropWhile isBlank)

/-- The text without the blanks at its two ends. -/
def trim (s : String) : String :=
  String.ofList (trimChars s.toList)

@[simp] theorem toList_trim (s : String) : (trim s).toList = trimChars s.toList := by
  simp [trim]

@[simp] theorem dropEndWhile_nil (p : Char → Bool) : dropEndWhile p [] = [] := rfl

@[simp] theorem trimChars_nil : trimChars [] = [] := rfl

/-! ## Keywords -/

/-- The lower-case form of a character, exact as far as ASCII letters are concerned. -/
def lowerChar (c : Char) : List Char :=
  if c = '\u212a' then ['k']
  else if c = '\u0130' then ['i', '\u0307']
  else [c.toLower]

/-- The form in which a text is compared with a keyword. -/
def keyword (s : String) : String :=
  String.ofList (s.toList.flatMap lowerChar)

end SinkAudit.Text

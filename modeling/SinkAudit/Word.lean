import SinkAudit.Error

/-!
# Words

Counts and limits that come from outside fit a machine word.  The two sizes are written out, so that
arithmetic with them is plain.

A sum of words may be too large for a word.  Then it has no value, and finding it is an error.

* `count64`, `count32`: how many words there are.
* `checked`: a number that has to be a word.
-/

namespace SinkAudit.Word

/-- The number of 64-bit words: two to the sixty-fourth. -/
def count64 : Nat := 18446744073709551616

/-- The number of 32-bit words: two to the thirty-second. -/
def count32 : Nat := 4294967296

/-- A number that has to be a 64-bit word. -/
def checked (n : Nat) : Except Error Nat :=
  if n < count64 then .ok n else .error .overflow

theorem checked_of_lt {n : Nat} (h : n < count64) : checked n = .ok n :=
  if_pos h

theorem checked_of_le {n : Nat} (h : count64 ≤ n) : checked n = .error .overflow :=
  if_neg (Nat.not_lt.mpr h)

theorem eq_overflow_of_checked {n : Nat} {e : Error} (h : checked n = .error e) : e = .overflow := by
  rw [checked] at h
  split at h
  · cases h
  · exact (Except.error.inj h).symm

end SinkAudit.Word

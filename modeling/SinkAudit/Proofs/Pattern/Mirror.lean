import SinkAudit.Proofs.Pattern.Shedding
import SinkAudit.Proofs.Text.Blank

/-!
# Patterns read backwards

What a match can do without at its end is checked on the pattern itself (`sheds`).  For the front of a
match the pattern is read backwards: its mirror image has the same words from right to left, so that a
character which the mirror image sheds at the end is one that the pattern sheds at the front.

A pattern that sheds the blanks on both sides finds the same in a line and in the trimmed line.  This is
a matter of the pattern: `\s+eval` needs a blank in front, and so it is found in fewer lines once they
are trimmed.

* `mirror`: the pattern read from right to left, and `occurs_mirror_iff`: where it occurs.
* `occurs_prepend_iff`: characters at the front of a text that make no difference.
* `shedsBlanks`: a check that no word of the pattern needs a blank at either end.
* `isMatch_trim`: such a pattern does not see whether a line was trimmed.
-/

namespace SinkAudit.Pattern

/-- The pattern read from right to left.  A test of the place is left as it is: the mirror image is for
patterns that make none. -/
def mirror : Pattern → Pattern
  | empty => empty
  | one s => one s
  | look l => look l
  | seq p q => seq q.mirror p.mirror
  | alt p q => alt p.mirror q.mirror
  | loop p => loop p.mirror

variable {p : Pattern} {P Q : Words} {before after before' after' : Option Char} {t u v w : List Char}

/-! ## Mirror images -/

theorem mirror_mirror (p : Pattern) : p.mirror.mirror = p := by
  induction p with
  | empty => rfl
  | one s => rfl
  | look l => rfl
  | seq p q ihp ihq => rw [mirror, mirror, ihp, ihq]
  | alt p q ihp ihq => rw [mirror, mirror, ihp, ihq]
  | loop p ih => rw [mirror, mirror, ih]

theorem isPlain_mirror (p : Pattern) : p.mirror.isPlain = p.isPlain := by
  induction p with
  | empty => rfl
  | one s => rfl
  | look l => rfl
  | seq p q ihp ihq => rw [mirror, isPlain, isPlain, ihp, ihq, Bool.and_comm]
  | alt p q ihp ihq => rw [mirror, isPlain, isPlain, ihp, ihq]
  | loop p ih => rw [mirror, isPlain, isPlain, ih]

/-- One more word behind a repetition. -/
theorem Repeated.snoc (hP : ∀ {b w a b' a'}, P b w a → P b' w a') (h : Repeated P before u after)
    (hv : P before' v after') : Repeated P before (u ++ v) after := by
  induction h with
  | once h => exact .more (hP h) (.once (hP hv))
  | more h _ ih =>
    rw [List.append_assoc]
    exact .more (hP h) ih

theorem Repeated.reverse (hQ : ∀ {b w a b' a'}, Q b w a → Q b' w a')
    (hPQ : ∀ {b w a}, P b w a → Q b w.reverse a) (h : Repeated P before w after) :
    Repeated Q before w.reverse after := by
  induction h with
  | once h => exact .once (hPQ h)
  | more h _ ih =>
    -- The first word of the repetition is the last one of its mirror image.
    rw [List.reverse_append]
    exact (Repeated.snoc (P := Q) hQ ih (hPQ h)).beside hQ

/-- The words of the mirror image are the words of the pattern, read from right to left. -/
theorem Matches.mirror (hp : p.isPlain = true) (h : p.Matches before w after) :
    p.mirror.Matches before w.reverse after := by
  induction p generalizing before w after with
  | empty => exact List.reverse_eq_nil_iff.mpr h
  | one s =>
    obtain ⟨c, rfl, hc⟩ := h
    exact ⟨c, rfl, hc⟩
  | look l => exact absurd hp Bool.false_ne_true
  | seq p q ihp ihq =>
    obtain ⟨hpp, hpq⟩ := Bool.and_eq_true_iff.mp hp
    obtain ⟨u, v, rfl, hu, hv⟩ := h
    have hpp' : p.mirror.isPlain = true := (isPlain_mirror p).trans hpp
    have hpq' : q.mirror.isPlain = true := (isPlain_mirror q).trans hpq
    exact ⟨v.reverse, u.reverse, List.reverse_append, (ihq hpq hv).beside hpq',
      (ihp hpp hu).beside hpp'⟩
  | alt p q ihp ihq =>
    obtain ⟨hpp, hpq⟩ := Bool.and_eq_true_iff.mp hp
    exact h.imp (ihp hpp) (ihq hpq)
  | loop p ih =>
    have hplain : p.mirror.isPlain = true := (isPlain_mirror p).trans hp
    exact Repeated.reverse (Matches.beside hplain) (ih hp) h

/-- The mirror image occurs in a text that has the mirror image of the word. -/
theorem Occurs.mirror (hp : p.isPlain = true) (h : p.Occurs t) : p.mirror.Occurs t.reverse := by
  obtain ⟨u, v, w, rfl, hv⟩ := h
  have hplain : p.mirror.isPlain = true := (isPlain_mirror p).trans hp
  refine ⟨w.reverse, v.reverse, u.reverse, ?_, (hv.mirror hp).beside hplain⟩
  simp only [List.reverse_append, List.append_assoc]

theorem occurs_mirror_iff (hp : p.isPlain = true) : p.mirror.Occurs t.reverse ↔ p.Occurs t := by
  refine ⟨fun h => ?_, Occurs.mirror hp⟩
  have hback := Occurs.mirror ((isPlain_mirror p).trans hp) h
  rwa [mirror_mirror, List.reverse_reverse] at hback

/-! ## The front of a text -/

/-- Characters that the mirror image sheds do not bring the pattern into a text from the front. -/
theorem occurs_prepend_iff (hp : p.isPlain = true) {r : List Char}
    (hs : ∀ c ∈ r, p.mirror.sheds c = true) : p.Occurs (r ++ t) ↔ p.Occurs t := by
  have hsheds : ∀ c ∈ r.reverse, p.mirror.sheds c = true :=
    fun c hc => hs c (List.mem_reverse.mp hc)
  rw [← occurs_mirror_iff hp, List.reverse_append,
    occurs_append_iff ((isPlain_mirror p).trans hp) hsheds, occurs_mirror_iff hp]

/-! ## Blanks -/

/-- Whether no word of the pattern needs a blank at its front or at its end. -/
def shedsBlanks (p : Pattern) : Bool :=
  Text.blanks.all fun c => p.mirror.sheds c && p.sheds c

theorem sheds_of_shedsBlanks (h : p.shedsBlanks = true) {c : Char} (hc : Text.isBlank c = true) :
    p.mirror.sheds c = true ∧ p.sheds c = true :=
  Bool.and_eq_true_iff.mp (List.all_eq_true.mp h c (Text.mem_blanks hc))

/-- A pattern that needs no blank at either end finds the same in a line and in the trimmed line. -/
theorem isMatch_trim (hp : p.isPlain = true) (hs : p.shedsBlanks = true) (line : String) :
    p.isMatch (Text.trim line) = p.isMatch line := by
  obtain ⟨a, b, hline, ha, hb⟩ := Text.exists_append_trimChars line.toList
  rw [Bool.eq_iff_iff, isMatch_iff, isMatch_iff, Text.toList_trim]
  calc p.Occurs (Text.trimChars line.toList)
    _ ↔ p.Occurs (Text.trimChars line.toList ++ b) :=
      (occurs_append_iff hp fun c hc => (sheds_of_shedsBlanks hs (hb c hc)).2).symm
    _ ↔ p.Occurs (a ++ (Text.trimChars line.toList ++ b)) :=
      (occurs_prepend_iff hp fun c hc => (sheds_of_shedsBlanks hs (ha c hc)).1).symm
    _ ↔ p.Occurs line.toList := by rw [← hline]

-- A blank that has to stand in front of a word is missed once the line is trimmed.
example : (seq (loop (one .blank)) (one (.single 'e'))).shedsBlanks = false := by
  decide

end SinkAudit.Pattern

import SinkAudit.Pattern.Basic

/-!
# The language of a pattern

What a pattern matches, said without marks, and the search against it: a text has a match exactly if
one of its parts belongs to the language of the pattern, in the place where it stands.

A test of the place looks at the characters beside a point, so a word is matched or not between two
neighbours (`Words`).  The marks of a search stand for the words that can still follow
(`Marked.Rest`), and reading a character takes its first letter off each of them (`rest_shift`).

* `Matches`: the language of a pattern.
* `Occurs`: some part of a text belongs to it.
* `isMatch_iff`: the search is right for every pattern and every text.
-/

namespace SinkAudit.Pattern

/-! ## Words in their place -/

/-- A set of words, each between the two characters beside it, where there are any. -/
abbrev Words := Option Char → List Char → Option Char → Prop

/-- The last character up to the end of a word. -/
def lastOf (before : Option Char) : List Char → Option Char
  | [] => before
  | c :: r => lastOf (some c) r

/-- The first character from the start of a word on. -/
def firstOf (after : Option Char) : List Char → Option Char
  | [] => after
  | c :: _ => some c

/-- A word of the first set, and right behind it one of the second. -/
def Then (P Q : Words) : Words := fun before w after =>
  ∃ u v, w = u ++ v ∧ P before u (firstOf after v) ∧ Q (lastOf before u) v after

/-- One word of the set or more, one right behind the other. -/
inductive Repeated (P : Words) : Option Char → List Char → Option Char → Prop
  | once {before w after} (h : P before w after) : Repeated P before w after
  | more {before u v after} (h : P before u (firstOf after v))
      (ht : Repeated P (lastOf before u) v after) : Repeated P before (u ++ v) after

/-- The language of a pattern. -/
def Matches : Pattern → Words
  | empty => fun _ w _ => w = []
  | one s => fun _ w _ => ∃ c, w = [c] ∧ s.contains c = true
  | look l => fun before w after =>
      w = [] ∧ (⟨before, after⟩ : TextPoint).satisfies l = true
  | seq p q => Then p.Matches q.Matches
  | alt p q => fun before w after => p.Matches before w after ∨ q.Matches before w after
  | loop p => Repeated p.Matches

/-- Some part of a text belongs to the language of a pattern. -/
def Occurs (p : Pattern) (text : List Char) : Prop :=
  ∃ u v w, text = u ++ v ++ w ∧ p.Matches (lastOf none u) v (firstOf none w)

variable {P Q P' : Words} {before after : Option Char} {c : Char} {u v w : List Char}

theorem then_nil : Then P Q before [] after ↔ P before [] after ∧ Q before [] after := by
  constructor
  · rintro ⟨u, v, huv, hu, hv⟩
    obtain ⟨rfl, rfl⟩ := List.nil_eq_append_iff.mp huv
    exact ⟨hu, hv⟩
  · rintro ⟨hu, hv⟩
    exact ⟨[], [], rfl, hu, hv⟩

/-- The first character belongs to the second word, if the first is empty, or to the first. -/
theorem then_cons : Then P Q before (c :: w) after ↔
    (P before [] (some c) ∧ Q before (c :: w) after) ∨
      Then (fun _ u x => P before (c :: u) x) Q (some c) w after := by
  constructor
  · rintro ⟨u, v, huv, hu, hv⟩
    rcases List.cons_eq_append_iff.mp huv with ⟨rfl, rfl⟩ | ⟨u', rfl, rfl⟩
    · exact Or.inl ⟨hu, hv⟩
    · exact Or.inr ⟨u', v, rfl, hu, hv⟩
  · rintro (⟨hu, hv⟩ | ⟨u, v, rfl, hu, hv⟩)
    · exact ⟨[], c :: w, rfl, hu, hv⟩
    · exact ⟨c :: u, v, rfl, hu, hv⟩

/-- A first word of two kinds, the second of which counts under a condition only. -/
theorem then_split {e : Prop} {R : Words}
    (h : ∀ u x, P before u x ↔ P' before u x ∨ (e ∧ R before u x)) :
    Then P Q before w after ↔ Then P' Q before w after ∨ (e ∧ Then R Q before w after) := by
  constructor
  · rintro ⟨u, v, hw, hu, hv⟩
    rcases (h _ _).mp hu with hu | ⟨he, hu⟩
    · exact Or.inl ⟨u, v, hw, hu, hv⟩
    · exact Or.inr ⟨he, u, v, hw, hu, hv⟩
  · rintro (⟨u, v, hw, hu, hv⟩ | ⟨he, u, v, hw, hu, hv⟩)
    · exact ⟨u, v, hw, (h _ _).mpr (Or.inl hu), hv⟩
    · exact ⟨u, v, hw, (h _ _).mpr (Or.inr ⟨he, hu⟩), hv⟩

theorem repeated_nil : Repeated P before [] after ↔ P before [] after := by
  refine ⟨fun h => ?_, Repeated.once⟩
  generalize hw : ([] : List Char) = w at h
  cases h with
  | once h => exact hw ▸ h
  | more h ht =>
    obtain ⟨rfl, rfl⟩ := List.nil_eq_append_iff.mp hw
    exact h

/-- Words that are empty may be left out at the front: the first that is not takes the first
character. -/
theorem repeated_cons : Repeated P before (c :: w) after ↔
    P before (c :: w) after ∨
      Then (fun _ u x => P before (c :: u) x) (Repeated P) (some c) w after := by
  constructor
  · intro h
    generalize hx : c :: w = x at h
    induction h with
    | once h => exact Or.inl (hx ▸ h)
    | more h ht ih =>
      rcases List.cons_eq_append_iff.mp hx with ⟨rfl, rfl⟩ | ⟨u', rfl, rfl⟩
      · exact ih rfl
      · exact Or.inr ⟨u', _, rfl, h, ht⟩
  · rintro (h | ⟨u, v, rfl, hu, hv⟩)
    · exact Repeated.once h
    · exact Repeated.more (u := c :: u) hu hv

theorem nullable_iff (p : Pattern) (before after : Option Char) :
    p.nullable ⟨before, after⟩ = true ↔ p.Matches before [] after := by
  induction p with
  | empty => simp [nullable, Matches]
  | one s => simp [nullable, Matches]
  | look l => simp [nullable, Matches]
  | seq p q ihp ihq => rw [nullable, Matches, Bool.and_eq_true, ihp, ihq, then_nil]
  | alt p q ihp ihq => rw [nullable, Matches, Bool.or_eq_true, ihp, ihq]
  | loop p ih => rw [nullable, Matches, ih, repeated_nil]

end SinkAudit.Pattern

/-! ## Marks -/

namespace SinkAudit.Marked

open Pattern

/-- The pattern under the marks. -/
def erase : Marked → Pattern
  | empty => .empty
  | one s _ => .one s
  | look l => .look l
  | seq _ p q => .seq p.erase q.erase
  | alt _ p q => .alt p.erase q.erase
  | loop _ p => .loop p.erase

/-- What can follow until a mark leaves at the end. -/
def Rest : Marked → Words
  | empty => fun _ _ _ => False
  | one _ mark => fun _ w _ => mark = true ∧ w = []
  | look _ => fun _ _ _ => False
  | seq _ p q => fun before w after =>
      q.Rest before w after ∨ Then p.Rest q.erase.Matches before w after
  | alt _ p q => fun before w after => p.Rest before w after ∨ q.Rest before w after
  | loop _ p => fun before w after =>
      p.Rest before w after ∨ Then p.Rest (Repeated p.erase.Matches) before w after

/-- Every node knows whether there is a mark below it. -/
def Counted : Marked → Prop
  | empty => True
  | one _ _ => True
  | look _ => True
  | seq marks p q => marks = (p.hasMark || q.hasMark) ∧ p.Counted ∧ q.Counted
  | alt marks p q => marks = (p.hasMark || q.hasMark) ∧ p.Counted ∧ q.Counted
  | loop marks p => marks = p.hasMark ∧ p.Counted

variable {m : Marked} {before after : Option Char} {c : Char} {w : List Char}

theorem erase_ofPattern (p : Pattern) : (ofPattern p).erase = p := by
  induction p with
  | empty => rfl
  | one s => rfl
  | look l => rfl
  | seq p q ihp ihq => rw [ofPattern, erase, ihp, ihq]
  | alt p q ihp ihq => rw [ofPattern, erase, ihp, ihq]
  | loop p ih => rw [ofPattern, erase, ih]

theorem hasMark_ofPattern (p : Pattern) : (ofPattern p).hasMark = false := by
  cases p <;> rfl

theorem counted_ofPattern (p : Pattern) : (ofPattern p).Counted := by
  induction p with
  | empty => trivial
  | one s => trivial
  | look l => trivial
  | seq p q ihp ihq => exact ⟨by rw [hasMark_ofPattern, hasMark_ofPattern]; rfl, ihp, ihq⟩
  | alt p q ihp ihq => exact ⟨by rw [hasMark_ofPattern, hasMark_ofPattern]; rfl, ihp, ihq⟩
  | loop p ih => exact ⟨(hasMark_ofPattern p).symm, ih⟩

theorem nullable_erase (m : Marked) (h : TextPoint) : m.erase.nullable h = m.nullable h := by
  induction m with
  | empty => rfl
  | one s mark => rfl
  | look l => rfl
  | seq marks p q ihp ihq => rw [erase, Pattern.nullable, nullable, ihp, ihq]
  | alt marks p q ihp ihq => rw [erase, Pattern.nullable, nullable, ihp, ihq]
  | loop marks p ih => rw [erase, Pattern.nullable, nullable, ih]

/-- Where there is no mark, none can leave. -/
theorem not_rest (hm : m.Counted) (h : m.hasMark = false) : ¬ m.Rest before w after := by
  induction m generalizing before w after with
  | empty => exact id
  | one s mark => exact fun hr => Bool.false_ne_true (h.symm.trans hr.1)
  | look l => exact id
  | seq marks p q ihp ihq =>
    obtain ⟨hmarks, hp, hq⟩ := hm
    obtain ⟨hpm, hqm⟩ := Bool.or_eq_false_iff.mp (hmarks.symm.trans h)
    rintro (hr | ⟨u, v, -, hu, -⟩)
    · exact ihq hq hqm hr
    · exact ihp hp hpm hu
  | alt marks p q ihp ihq =>
    obtain ⟨hmarks, hp, hq⟩ := hm
    obtain ⟨hpm, hqm⟩ := Bool.or_eq_false_iff.mp (hmarks.symm.trans h)
    rintro (hr | hr)
    · exact ihp hp hpm hr
    · exact ihq hq hqm hr
  | loop marks p ih =>
    obtain ⟨hmarks, hp⟩ := hm
    rintro (hr | ⟨u, v, -, hu, -⟩)
    · exact ih hp (hmarks.symm.trans h) hr
    · exact ih hp (hmarks.symm.trans h) hu

theorem hasMark_of_rest (hm : m.Counted) (h : m.Rest before w after) : m.hasMark = true := by
  cases hmark : m.hasMark with
  | true => rfl
  | false => exact absurd h (not_rest hm hmark)

/-- A mark can leave at once exactly if nothing more has to follow. -/
theorem isFinal_iff (hm : m.Counted) :
    m.isFinal ⟨before, after⟩ = true ↔ m.Rest before [] after := by
  induction m with
  | empty => simp [isFinal, Rest]
  | one s mark => simp [isFinal, Rest]
  | look l => simp [isFinal, Rest]
  | seq marks p q ihp ihq =>
    simp only [isFinal, Bool.and_eq_true, Bool.or_eq_true, ihp hm.2.1, ihq hm.2.2,
      ← nullable_erase, nullable_iff]
    constructor
    · rintro ⟨-, hr | ⟨⟨-, hq⟩, hr⟩⟩
      · exact Or.inl hr
      · exact Or.inr (then_nil.mpr ⟨hr, hq⟩)
    · intro hr
      refine ⟨hasMark_of_rest hm hr, ?_⟩
      rcases hr with hr | hr
      · exact Or.inl hr
      · obtain ⟨hr, hq⟩ := then_nil.mp hr
        exact Or.inr ⟨⟨hasMark_of_rest hm.2.1 hr, hq⟩, hr⟩
  | alt marks p q ihp ihq =>
    simp only [isFinal, Bool.and_eq_true, Bool.or_eq_true, ihp hm.2.1, ihq hm.2.2]
    exact ⟨And.right, fun hr => ⟨hasMark_of_rest hm hr, hr⟩⟩
  | loop marks p ih =>
    simp only [isFinal, Bool.and_eq_true, ih hm.2]
    constructor
    · rintro ⟨-, hr⟩
      exact Or.inl hr
    · intro hr
      refine ⟨hasMark_of_rest hm hr, ?_⟩
      rcases hr with hr | hr
      · exact hr
      · exact (then_nil.mp hr).1

theorem erase_shift (h : TextPoint) (c : Char) (enter : Bool) (m : Marked) :
    (m.shift h c enter).erase = m.erase := by
  induction m generalizing enter with
  | empty => rfl
  | one s mark => rfl
  | look l => rfl
  | seq marks p q ihp ihq =>
    rw [shift]
    split
    · simp only [erase, ihp, ihq]
    · rfl
  | alt marks p q ihp ihq =>
    rw [shift]
    split
    · simp only [erase, ihp, ihq]
    · rfl
  | loop marks p ih =>
    rw [shift]
    split
    · simp only [erase, ih]
    · rfl

theorem counted_shift (h : TextPoint) (c : Char) (enter : Bool) (hm : m.Counted) :
    (m.shift h c enter).Counted := by
  induction m generalizing enter with
  | empty => trivial
  | one s mark => trivial
  | look l => trivial
  | seq marks p q ihp ihq =>
    rw [shift]
    split
    · exact ⟨rfl, ihp _ hm.2.1, ihq _ hm.2.2⟩
    · exact hm
  | alt marks p q ihp ihq =>
    rw [shift]
    split
    · exact ⟨rfl, ihp _ hm.2.1, ihq _ hm.2.2⟩
    · exact hm
  | loop marks p ih =>
    rw [shift]
    split
    · exact ⟨rfl, ih _ hm.2⟩
    · exact hm

/-- Where no mark is and none enters, no word is left before a character nor behind it. -/
theorem rest_idle {enter : Bool} (hm : m.Counted) (h : ¬ (enter || m.hasMark) = true) :
    m.Rest (some c) w after ↔
      m.Rest before (c :: w) after ∨
        (enter = true ∧ m.erase.Matches before (c :: w) after) := by
  obtain ⟨he, hmark⟩ := Bool.or_eq_false_iff.mp (Bool.eq_false_iff.mpr h)
  refine iff_of_false (not_rest hm hmark) ?_
  rintro (hr | ⟨he', -⟩)
  · exact not_rest hm hmark hr
  · exact Bool.false_ne_true (he.symm.trans he')

/-- What follows a character: what began with it at a mark, and, where a mark enters, what began
with it at the front. -/
theorem rest_shift (hm : m.Counted) (enter : Bool) :
    (m.shift ⟨before, some c⟩ c enter).Rest (some c) w after ↔
      m.Rest before (c :: w) after ∨
        (enter = true ∧ m.erase.Matches before (c :: w) after) := by
  induction m generalizing enter w after with
  | empty => simp [shift, Rest, erase, Matches]
  | one s mark =>
    simp only [shift, Rest, erase, Matches, Bool.and_eq_true, List.cons_ne_nil, and_false, false_or,
      List.cons.injEq]
    constructor
    · rintro ⟨⟨he, hs⟩, hw⟩
      exact ⟨he, c, ⟨rfl, hw⟩, hs⟩
    · rintro ⟨he, _, ⟨rfl, hw⟩, hs⟩
      exact ⟨⟨he, hs⟩, hw⟩
  | look l => simp [shift, Rest, erase, Matches]
  | seq marks p q ihp ihq =>
    rw [shift]
    split
    case isFalse h => exact rest_idle hm h
    case isTrue =>
      -- The first character of a word of `p` and `q` is read by `p`, or by `q` where `p` is done.
      have hthen : Then (p.shift ⟨before, some c⟩ c enter).Rest q.erase.Matches (some c) w after ↔
          Then (fun _ u x => p.Rest before (c :: u) x) q.erase.Matches (some c) w after ∨
            (enter = true ∧
              Then (fun _ u x => p.erase.Matches before (c :: u) x) q.erase.Matches
                (some c) w after) :=
        then_split fun u x => ihp hm.2.1 enter
      simp only [Rest, erase, Matches, erase_shift, ihq hm.2.2, hthen, then_cons, Bool.or_eq_true,
        Bool.and_eq_true, isFinal_iff hm.2.1, ← nullable_erase, nullable_iff]
      grind
  | alt marks p q ihp ihq =>
    rw [shift]
    split
    case isFalse h => exact rest_idle hm h
    case isTrue =>
      simp only [Rest, erase, Matches, ihp hm.2.1, ihq hm.2.2]
      grind
  | loop marks p ih =>
    rw [shift]
    split
    case isFalse h => exact rest_idle hm h
    case isTrue =>
      -- A new copy begins where the loop is entered and where a copy is done.
      have hthen (again : Bool) : Then (p.shift ⟨before, some c⟩ c again).Rest
            (Repeated p.erase.Matches) (some c) w after ↔
          Then (fun _ u x => p.Rest before (c :: u) x) (Repeated p.erase.Matches)
              (some c) w after ∨
            (again = true ∧
              Then (fun _ u x => p.erase.Matches before (c :: u) x) (Repeated p.erase.Matches)
                (some c) w after) :=
        then_split fun u x => ih hm.2 again
      simp only [Rest, erase, Matches, erase_shift, ih hm.2, hthen, then_cons, repeated_cons,
        Bool.or_eq_true, isFinal_iff hm.2]
      grind

/-- A search finds what a mark leads to, and every word of the pattern that is still to come. -/
theorem searchFrom_iff (hm : m.Counted) (before : Option Char) (text : List Char) :
    m.searchFrom before text = true ↔
      (∃ v w, text = v ++ w ∧ m.Rest before v (firstOf none w)) ∨
        ∃ u v w, text = u ++ v ++ w ∧ m.erase.Matches (lastOf before u) v (firstOf none w) := by
  induction text generalizing m before with
  | nil =>
    simp only [searchFrom, Bool.or_eq_true, ← nullable_erase, nullable_iff, isFinal_iff hm]
    constructor
    · rintro (h | h)
      · exact Or.inr ⟨[], [], [], rfl, h⟩
      · exact Or.inl ⟨[], [], rfl, h⟩
    · rintro (⟨v, w, h, hr⟩ | ⟨u, v, w, h, hp⟩)
      · obtain ⟨rfl, rfl⟩ := List.nil_eq_append_iff.mp h
        exact Or.inr hr
      · obtain ⟨huv, rfl⟩ := List.nil_eq_append_iff.mp h
        obtain ⟨rfl, rfl⟩ := List.append_eq_nil_iff.mp huv
        exact Or.inl hp
  | cons c r ih =>
    simp only [searchFrom, Bool.or_eq_true, ← nullable_erase, nullable_iff, isFinal_iff hm,
      ih (counted_shift _ c true hm), erase_shift, rest_shift hm, true_and]
    constructor
    · rintro ((h | h) | ⟨v, w, rfl, h | h⟩ | ⟨u, v, w, rfl, h⟩)
      · exact Or.inr ⟨[], [], c :: r, rfl, h⟩
      · exact Or.inl ⟨[], c :: r, rfl, h⟩
      · exact Or.inl ⟨c :: v, w, rfl, h⟩
      · exact Or.inr ⟨[], c :: v, w, rfl, h⟩
      · exact Or.inr ⟨c :: u, v, w, rfl, h⟩
    · -- Where the word is split decides whether this character is in it, before it or behind it.
      rintro (⟨v, w, h, hr⟩ | ⟨u, v, w, h, hp⟩)
      · rcases List.cons_eq_append_iff.mp h with ⟨rfl, rfl⟩ | ⟨v', rfl, rfl⟩
        · exact Or.inl (Or.inr hr)
        · exact Or.inr (Or.inl ⟨v', w, rfl, Or.inl hr⟩)
      · rw [List.append_assoc] at h
        rcases List.cons_eq_append_iff.mp h with ⟨rfl, hvw⟩ | ⟨u', rfl, rfl⟩
        · rcases List.append_eq_cons_iff.mp hvw with ⟨rfl, rfl⟩ | ⟨v', rfl, rfl⟩
          · exact Or.inl (Or.inl hp)
          · exact Or.inr (Or.inl ⟨v', w, rfl, Or.inr hp⟩)
        · exact Or.inr (Or.inr ⟨u', v, w, (List.append_assoc _ _ _).symm, hp⟩)

end SinkAudit.Marked

namespace SinkAudit.Pattern

/-- The search is right: it finds a match exactly where a part of the text belongs to the language
of the pattern. -/
theorem isMatch_iff (p : Pattern) (text : String) :
    p.isMatch text = true ↔ p.Occurs text.toList := by
  rw [isMatch, Marked.searchFrom_iff (Marked.counted_ofPattern p), Marked.erase_ofPattern, Occurs]
  refine or_iff_right ?_
  rintro ⟨v, w, -, hr⟩
  exact Marked.not_rest (Marked.counted_ofPattern p) (Marked.hasMark_ofPattern p) hr

end SinkAudit.Pattern

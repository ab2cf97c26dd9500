import SinkAudit.Proofs.Pattern.Language

/-!
# Characters that a match can do without

A line is searched together with what ends it.  For most patterns that makes no difference: where a
word of the pattern ends with the character, the word without it belongs to the pattern as well.

* `isPlain`: the pattern tests no place, so its words may stand anywhere (`Matches.beside`), and what
  occurs in a text occurs in every longer one (`Occurs.within`).
* `sheds`: a check that no word of the pattern needs a certain character at its end (`Matches.shed`).
* `occurs_append_iff`: such characters at the end of a text make no difference.
-/

namespace SinkAudit.Pattern

/-- No part of the pattern is a test of the place. -/
def isPlain : Pattern → Bool
  | empty => true
  | one _ => true
  | look _ => false
  | seq p q => p.isPlain && q.isPlain
  | alt p q => p.isPlain && q.isPlain
  | loop p => p.isPlain

/-- The two branches of a pattern that stands for any number of characters of one class. -/
def isRun : Pattern → Pattern → Bool
  | loop (one _), empty => true
  | _, _ => false

/-- Whether every word of the pattern that ends with the character belongs to it without the
character too. -/
def sheds (c : Char) : Pattern → Bool
  | empty => true
  | one s => !s.contains c
  | look _ => false
  | seq p q => q.sheds c && (!q.nullable ⟨none, none⟩ || p.sheds c)
  | alt p q => isRun p q || (p.sheds c && q.sheds c)
  | loop p => p.sheds c

variable {p q : Pattern} {P : Words} {before after before' after' : Option Char} {c : Char}
  {t u v w : List Char}

/-! ## Patterns that test no place -/

theorem Repeated.beside (hP : ∀ {b w a b' a'}, P b w a → P b' w a')
    (h : Repeated P before w after) : Repeated P before' w after' := by
  induction h generalizing before' after' with
  | once h => exact .once (hP h)
  | more h _ ih => exact .more (hP h) ih

/-- The neighbours of a word do not matter to a pattern that tests no place. -/
theorem Matches.beside (hp : p.isPlain = true) (h : p.Matches before w after) :
    p.Matches before' w after' := by
  induction p generalizing before w after before' after' with
  | empty => exact h
  | one s => exact h
  | look l => exact absurd hp Bool.false_ne_true
  | seq p q ihp ihq =>
    obtain ⟨hp, hq⟩ := Bool.and_eq_true_iff.mp hp
    obtain ⟨u, v, hw, hu, hv⟩ := h
    exact ⟨u, v, hw, ihp hp hu, ihq hq hv⟩
  | alt p q ihp ihq =>
    obtain ⟨hp, hq⟩ := Bool.and_eq_true_iff.mp hp
    exact h.imp (ihp hp) (ihq hq)
  | loop p ih => exact Repeated.beside (ih hp) h

/-- What occurs in a text occurs wherever the text does. -/
theorem Occurs.within (hp : p.isPlain = true) (h : p.Occurs t) (s r : List Char) :
    p.Occurs (s ++ t ++ r) := by
  obtain ⟨u, v, w, rfl, hv⟩ := h
  refine ⟨s ++ u, v, w ++ r, ?_, hv.beside hp⟩
  simp only [List.append_assoc]

/-! ## Shedding -/

/-- The last character is that of the second part, unless there is nothing in it. -/
theorem append_eq_snoc (h : w ++ [c] = u ++ v) :
    (v = [] ∧ u = w ++ [c]) ∨ ∃ v', v = v' ++ [c] ∧ w = u ++ v' := by
  rcases List.eq_nil_or_concat v with rfl | ⟨v', d, rfl⟩
  · exact Or.inl ⟨rfl, by rw [h, List.append_nil]⟩
  · rw [List.concat_eq_append, ← List.append_assoc] at h
    obtain ⟨hw, hc⟩ := List.append_inj' h rfl
    exact Or.inr ⟨v', by rw [List.concat_eq_append, hc], hw⟩

theorem repeated_one_iff {s : CharClass} :
    Repeated (one s).Matches before w after ↔ w ≠ [] ∧ ∀ c ∈ w, s.contains c = true := by
  constructor
  · intro h
    induction h with
    | once h =>
      obtain ⟨c, rfl, hc⟩ := h
      simp [hc]
    | more h _ ih =>
      obtain ⟨c, rfl, hc⟩ := h
      simp only [List.cons_append, List.nil_append, List.mem_cons, forall_eq_or_imp]
      exact ⟨List.cons_ne_nil _ _, hc, ih.2⟩
  · rintro ⟨hne, hs⟩
    induction w generalizing before with
    | nil => exact absurd rfl hne
    | cons c w ih =>
      obtain ⟨hc, hw⟩ := List.forall_mem_cons.mp hs
      cases w with
      | nil => exact .once ⟨c, rfl, hc⟩
      | cons d w => exact .more (u := [c]) ⟨c, rfl, hc⟩ (ih (List.cons_ne_nil _ _) hw)

/-- A run of characters of one class may end anywhere. -/
theorem shed_run (hrun : isRun p q = true) (h : (alt p q).Matches before (w ++ [c]) after) :
    (alt p q).Matches before w after := by
  rw [isRun.eq_def] at hrun
  split at hrun
  · rcases h with h | h
    · have hs := (repeated_one_iff.mp h).2
      by_cases hw : w = []
      · exact Or.inr hw
      · refine Or.inl (repeated_one_iff.mpr ⟨hw, fun d hd => hs d ?_⟩)
        exact List.mem_append_left [c] hd
    · exact absurd h (List.append_ne_nil_of_right_ne_nil w (List.cons_ne_nil c []))
  · exact absurd hrun Bool.false_ne_true

theorem Repeated.shed (hP : ∀ {b w a}, P b (w ++ [c]) a → P b w a)
    (hb : ∀ {b w a b' a'}, P b w a → P b' w a') (h : Repeated P before (w ++ [c]) after) :
    Repeated P before w after := by
  generalize hx : w ++ [c] = x at h
  induction h generalizing w with
  | once h => exact .once (hP (hx ▸ h))
  | more h _ ih =>
    rcases append_eq_snoc hx with ⟨rfl, rfl⟩ | ⟨v', rfl, rfl⟩
    · exact .once (hP h)
    · exact .more (hb h) (ih rfl)

/-- The check is right: a word of the pattern may drop the character at its end. -/
theorem Matches.shed (hp : p.isPlain = true) (hs : p.sheds c = true)
    (h : p.Matches before (w ++ [c]) after) : p.Matches before w after := by
  induction p generalizing before w after with
  | empty => exact absurd h (List.append_ne_nil_of_right_ne_nil w (List.cons_ne_nil c []))
  | one s =>
    obtain ⟨d, hd, hc⟩ := h
    rcases List.append_eq_singleton_iff.mp hd with ⟨-, hcd⟩ | ⟨-, hcd⟩
    · rw [sheds, List.singleton_inj.mp hcd, hc] at hs
      exact absurd hs Bool.false_ne_true
    · exact absurd hcd (List.cons_ne_nil c [])
  | look l => exact absurd hp Bool.false_ne_true
  | seq p q ihp ihq =>
    obtain ⟨hpp, hpq⟩ := Bool.and_eq_true_iff.mp hp
    obtain ⟨hsq, hsp⟩ := Bool.and_eq_true_iff.mp hs
    obtain ⟨u, v, hw, hu, hv⟩ := h
    rcases append_eq_snoc hw with ⟨rfl, rfl⟩ | ⟨v', rfl, rfl⟩
    · -- The second part matches nothing here, so that the first has to shed the character.
      have hnull : q.nullable ⟨none, none⟩ = true := (nullable_iff q none none).mpr (hv.beside hpq)
      rw [hnull] at hsp
      exact ⟨w, [], (List.append_nil w).symm, ihp hpp hsp hu, hv.beside hpq⟩
    · exact ⟨u, v', rfl, hu.beside hpp, ihq hpq hsq hv⟩
  | alt p q ihp ihq =>
    obtain ⟨hpp, hpq⟩ := Bool.and_eq_true_iff.mp hp
    rcases Bool.or_eq_true_iff.mp hs with hrun | hs
    · exact shed_run hrun h
    · obtain ⟨hsp, hsq⟩ := Bool.and_eq_true_iff.mp hs
      exact h.imp (ihp hpp hsp) (ihq hpq hsq)
  | loop p ih => exact Repeated.shed (ih hp hs) (Matches.beside hp) h

/-! ## Texts -/

/-- A character that the pattern sheds does not bring it into a text. -/
theorem occurs_snoc_iff (hp : p.isPlain = true) (hs : p.sheds c = true) :
    p.Occurs (t ++ [c]) ↔ p.Occurs t := by
  constructor
  · rintro ⟨u, v, w, ht, hv⟩
    rcases append_eq_snoc ht with ⟨-, huv⟩ | ⟨w', -, rfl⟩
    · rcases append_eq_snoc huv.symm with ⟨rfl, -⟩ | ⟨v', rfl, rfl⟩
      · exact ⟨[], [], t, rfl, hv.beside hp⟩
      · exact ⟨u, v', [], (List.append_nil _).symm, (hv.shed hp hs).beside hp⟩
    · exact ⟨u, v, w', rfl, hv.beside hp⟩
  · exact fun h => h.within hp [] [c]

/-- Characters that the pattern sheds do not bring it into a text from the end. -/
theorem occurs_append_iff (hp : p.isPlain = true) {r : List Char}
    (hs : ∀ c ∈ r, p.sheds c = true) : p.Occurs (t ++ r) ↔ p.Occurs t := by
  induction r generalizing t with
  | nil => rw [List.append_nil]
  | cons c r ih =>
    obtain ⟨hc, hr⟩ := List.forall_mem_cons.mp hs
    rw [List.append_cons, ih hr, occurs_snoc_iff hp hc]

end SinkAudit.Pattern

import SinkAudit.Text.Character

/-!
# Runs and what trimming leaves

A run of elements that satisfy a condition can be told from what follows it.  Dropping a run of
characters at the end of a text takes the text apart into what is kept and what satisfies the
condition.  Trimming does not see blanks that stand at the end, so that a text and the text without
its terminator have the same trimmed form.

* `append_cons_inj`: where a run ends.
* `isBlank_eq_false`: the printing characters of ASCII, digits and letters among them.
* `blanks`: the blank characters one by one.
* `exists_append_dropEndWhile`, `exists_append_trimChars`: what is dropped satisfies the condition.
* `dropEndWhile_append_of_mem`: what stands in front of a character that is kept.
* `dropEndWhile_append`, `trimChars_append`: a run that is dropped anyway makes no difference.
* `trim_trim`: trimming twice is trimming once.
-/

namespace SinkAudit.Text

/-! ## Runs -/

/-- A run of elements that satisfy a condition ends where the condition fails first. -/
theorem append_cons_inj {α : Type} {p : α → Bool} {a b s t : List α} {c d : α}
    (ha : ∀ x ∈ a, p x = true) (hc : p c = false) (hb : ∀ x ∈ b, p x = true) (hd : p d = false)
    (h : a ++ c :: s = b ++ d :: t) : a = b ∧ c :: s = d :: t := by
  induction a generalizing b with
  | nil =>
    cases b with
    | nil => exact ⟨rfl, h⟩
    | cons y b =>
      have hcy : c = y := (List.cons.inj h).1
      rw [hcy, hb y List.mem_cons_self] at hc
      exact absurd hc.symm Bool.false_ne_true
  | cons x a ih =>
    cases b with
    | nil =>
      have hxd : x = d := (List.cons.inj h).1
      rw [← hxd, ha x List.mem_cons_self] at hd
      exact absurd hd.symm Bool.false_ne_true
    | cons y b =>
      obtain ⟨rfl, hrest⟩ := List.cons.inj h
      obtain ⟨rfl, hst⟩ := ih (fun z hz => ha z (List.mem_cons_of_mem x hz))
        (fun z hz => hb z (List.mem_cons_of_mem x hz)) hrest
      exact ⟨rfl, hst⟩

/-! ## Dropping and trimming -/

variable {p : Char → Bool} {c : Char} {s t : List Char}

/-- The printing characters of ASCII are not blank. -/
theorem isBlank_eq_false (hlow : 0x20 < c.toNat) (hhigh : c.toNat < 0x7f) : isBlank c = false := by
  simp only [isBlank, blankRanges, List.any_cons, List.any_nil, Bool.or_false,
    Bool.or_eq_false_iff, Bool.and_eq_false_iff, decide_eq_false_iff_not]
  omega

theorem isBlank_of_isDigit (h : c.isDigit = true) : isBlank c = false := by
  obtain ⟨hlow, hhigh⟩ := Bool.and_eq_true_iff.mp h
  have hlow' : 48 ≤ c.toNat := of_decide_eq_true hlow
  have hhigh' : c.toNat ≤ 57 := of_decide_eq_true hhigh
  exact isBlank_eq_false (by omega) (by omega)

theorem isBlank_of_isLower (h : c.isLower = true) : isBlank c = false := by
  obtain ⟨hlow, hhigh⟩ := Bool.and_eq_true_iff.mp h
  have hlow' : 97 ≤ c.toNat := of_decide_eq_true hlow
  have hhigh' : c.toNat ≤ 122 := of_decide_eq_true hhigh
  exact isBlank_eq_false (by omega) (by omega)

/-- The blank characters in increasing order. -/
def blanks : List Char :=
  blankRanges.flatMap fun r => (List.range' r.1 (r.2 + 1 - r.1)).map Char.ofNat

theorem mem_blanks (h : isBlank c = true) : c ∈ blanks := by
  obtain ⟨r, hr, hc⟩ := List.any_eq_true.mp h
  obtain ⟨hlow, hhigh⟩ := Bool.and_eq_true_iff.mp hc
  have hlow' : r.1 ≤ c.toNat := of_decide_eq_true hlow
  have hhigh' : c.toNat ≤ r.2 := of_decide_eq_true hhigh
  refine List.mem_flatMap.mpr ⟨r, hr, List.mem_map.mpr ⟨c.toNat, ?_, Char.ofNat_toNat c⟩⟩
  rw [List.mem_range'_1]
  omega

/-- What is dropped at the end satisfies the condition. -/
theorem exists_append_dropEndWhile (p : Char → Bool) (s : List Char) :
    ∃ t, s = dropEndWhile p s ++ t ∧ ∀ c ∈ t, p c = true := by
  refine ⟨(s.reverse.takeWhile p).reverse, ?_, fun c hc => ?_⟩
  · rw [dropEndWhile, ← List.reverse_append, List.takeWhile_append_dropWhile, List.reverse_reverse]
  · exact List.all_eq_true.mp List.all_takeWhile c (List.mem_reverse.mp hc)

/-- What is kept does not end with a character that would be dropped. -/
theorem eq_false_of_getLast?_dropEndWhile (h : (dropEndWhile p s).getLast? = some c) :
    p c = false := by
  have hhead := List.head?_dropWhile_not p s.reverse
  rw [dropEndWhile, List.getLast?_reverse] at h
  rwa [h] at hhead

theorem dropEndWhile_append (ht : ∀ c ∈ t, p c = true) :
    dropEndWhile p (s ++ t) = dropEndWhile p s := by
  have hrev : ∀ c ∈ t.reverse, p c = true := fun c hc => ht c (List.mem_reverse.mp hc)
  rw [dropEndWhile, List.reverse_append, List.dropWhile_append_of_pos hrev, dropEndWhile]

theorem dropEndWhile_cons (hc : p c = false) :
    dropEndWhile p (c :: s) = c :: dropEndWhile p s := by
  rw [dropEndWhile, List.reverse_cons, List.dropWhile_append, dropEndWhile]
  split
  case isTrue h =>
    rw [List.isEmpty_iff.mp h, List.dropWhile_cons_of_neg (Bool.not_eq_true _ ▸ hc)]
    rfl
  case isFalse => rw [List.reverse_append, List.reverse_singleton, List.singleton_append]

/-- A character that is kept keeps all that stands in front of it. -/
theorem dropEndWhile_append_of_mem (hmem : c ∈ t) (hc : p c = false) :
    dropEndWhile p (s ++ t) = s ++ dropEndWhile p t := by
  have hkept : (t.reverse.dropWhile p).isEmpty = false := by
    rw [List.isEmpty_eq_false_iff]
    intro hnil
    have hrun := List.takeWhile_append_dropWhile (p := p) (l := t.reverse)
    rw [hnil, List.append_nil] at hrun
    have hall : p c = true :=
      List.all_eq_true.mp List.all_takeWhile c (hrun.symm ▸ List.mem_reverse.mpr hmem)
    exact absurd (hall.symm.trans hc) (by decide)
  rw [dropEndWhile, List.reverse_append, List.dropWhile_append, hkept, if_neg Bool.false_ne_true,
    List.reverse_append, List.reverse_reverse, dropEndWhile]

theorem dropEndWhile_of_forall (hs : ∀ c ∈ s, p c = false) : dropEndWhile p s = s := by
  induction s with
  | nil => rfl
  | cons c s ih =>
    obtain ⟨hc, hs⟩ := List.forall_mem_cons.mp hs
    rw [dropEndWhile_cons hc, ih hs]

/-- What trimming drops at the two ends is blank. -/
theorem exists_append_trimChars (s : List Char) :
    ∃ a b, s = a ++ (trimChars s ++ b) ∧ (∀ c ∈ a, isBlank c = true) ∧ ∀ c ∈ b, isBlank c = true := by
  obtain ⟨b, hb, hblank⟩ := exists_append_dropEndWhile isBlank (s.dropWhile isBlank)
  refine ⟨s.takeWhile isBlank, b, ?_, List.all_eq_true.mp List.all_takeWhile, hblank⟩
  rw [trimChars, ← hb, List.takeWhile_append_dropWhile]

/-- Blanks at the end do not change the trimmed form. -/
theorem trimChars_append (ht : ∀ c ∈ t, isBlank c = true) :
    trimChars (s ++ t) = trimChars s := by
  rw [trimChars, List.dropWhile_append, trimChars]
  split
  case isTrue h =>
    have hnil : t.dropWhile isBlank = [] := by
      rw [← List.append_nil t, List.dropWhile_append_of_pos ht, List.dropWhile_nil]
    rw [List.isEmpty_iff.mp h, hnil]
  case isFalse => exact dropEndWhile_append ht

/-- What is trimmed stays as it is. -/
theorem trimChars_trimChars (s : List Char) : trimChars (trimChars s) = trimChars s := by
  obtain ⟨a, b, hs, ha, hb⟩ := exists_append_trimChars s
  calc trimChars (trimChars s)
      = trimChars (trimChars s ++ b) := (trimChars_append hb).symm
    _ = trimChars (a ++ (trimChars s ++ b)) := by
        rw [trimChars.eq_def (a ++ _), List.dropWhile_append_of_pos ha]
        rfl
    _ = trimChars s := congrArg trimChars hs.symm

theorem trim_trim (s : String) : trim (trim s) = trim s := by
  rw [trim, toList_trim, trimChars_trimChars, trim]

end SinkAudit.Text

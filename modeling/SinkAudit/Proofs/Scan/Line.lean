import SinkAudit.Proofs.Text.Blank
import SinkAudit.Scan.Line

/-!
# Lines and their terminators

A line of a text is its body and, behind it, what ended it.  No terminator stands in the body, and
only the last line of a text may be without one.

* `Lines`, `lines_splitChars`: what the lines of a text are made of.
* `Apart`, `split_append`: the lines of two texts, one behind the other.
* `isTerminator_of_mem_body`, `pairwise_isClosed`: what that says of bodies and of ends.
* `exists_terminators`, `trim_body`: a line taken apart, and what trimming makes of it.
* `numbered?`: the line with a number, and `exists_getElem?_cons`: lines from some index on.
-/

namespace SinkAudit.Scan.Line

open Text (dropEndWhile)

/-! ## Lists of characters -/

/-- What can end a line. -/
inductive IsEnd : List Char → Prop
  | feed : IsEnd ['\n']
  | both : IsEnd ['\r', '\n']
  | carriage : IsEnd ['\r']

/-- Lines that follow each other: each is a body and an end, but for the last, which may be a body
alone. -/
inductive Lines : List (List Char) → Prop
  | nil : Lines []
  | last {x} (hx : x ≠ []) (hfree : ∀ c ∈ x, isTerminator c = false) : Lines [x]
  | cons {x t ls} (hfree : ∀ c ∈ x, isTerminator c = false) (ht : IsEnd t) (h : Lines ls) :
      Lines ((x ++ t) :: ls)

theorem IsEnd.isTerminator {t : List Char} (h : IsEnd t) : ∀ c ∈ t, isTerminator c = true := by
  cases h with
  | feed => exact List.all_eq_true.mp (by decide)
  | both => exact List.all_eq_true.mp (by decide)
  | carriage => exact List.all_eq_true.mp (by decide)

theorem IsEnd.length_pos {t : List Char} (h : IsEnd t) : 0 < t.length := by
  cases h <;> decide

theorem isTerminator_eq_false {c : Char} (hn : c ≠ '\n') (hr : c ≠ '\r') :
    isTerminator c = false := by
  rw [isTerminator, beq_false_of_ne hr, beq_false_of_ne hn]
  rfl

theorem lines_splitChars (s : List Char) : Lines (splitChars s) := by
  have hnil : ∀ c ∈ ([] : List Char), isTerminator c = false := fun c hc => nomatch hc
  fun_induction splitChars s with
  | case1 => exact .nil
  | case2 r ih => exact .cons hnil .feed ih
  | case3 r ih => exact .cons hnil .both ih
  | case4 r _ ih => exact .cons hnil .carriage ih
  | case5 c r hn _ hr _ _ =>
    exact .last (List.cons_ne_nil c [])
      (List.forall_mem_cons.mpr ⟨isTerminator_eq_false hn hr, hnil⟩)
  | case6 c r hn _ hr l ls hls ih =>
    -- An ordinary character goes to the front of the first line.
    have hc := isTerminator_eq_false hn hr
    rw [hls] at ih
    cases ih with
    | last _ hfree => exact .last (List.cons_ne_nil c l) (List.forall_mem_cons.mpr ⟨hc, hfree⟩)
    | cons hfree ht h => exact .cons (List.forall_mem_cons.mpr ⟨hc, hfree⟩) ht h

theorem splitChars_cons_of_nil {c : Char} (hn : c ≠ '\n') (hr : c ≠ '\r') {r : List Char}
    (h : splitChars r = []) : splitChars (c :: r) = [[c]] := by
  rw [splitChars.eq_def]
  split <;> simp_all

theorem splitChars_cons_of_cons {c : Char} (hn : c ≠ '\n') (hr : c ≠ '\r') {r l : List Char}
    {ls : List (List Char)} (h : splitChars r = l :: ls) : splitChars (c :: r) = (c :: l) :: ls := by
  rw [splitChars.eq_def]
  split <;> simp_all

/-- Only the empty text has no lines. -/
theorem splitChars_eq_nil {s : List Char} (h : splitChars s = []) : s = [] := by
  rw [splitChars.eq_def] at h
  split at h
  case h_1 => rfl
  case h_5 => split at h <;> exact absurd h (by simp)
  all_goals exact absurd h (by simp)

/-- Characters without a terminator go to the front of the first line behind them. -/
theorem splitChars_append_of_cons {x : List Char} (hfree : ∀ c ∈ x, isTerminator c = false)
    {r l : List Char} {ls : List (List Char)} (h : splitChars r = l :: ls) :
    splitChars (x ++ r) = (x ++ l) :: ls := by
  induction x with
  | nil => exact h
  | cons c x ih =>
    obtain ⟨hc, hx⟩ := List.forall_mem_cons.mp hfree
    obtain ⟨hr, hn⟩ := Bool.or_eq_false_iff.mp hc
    exact splitChars_cons_of_cons (ne_of_beq_false hn) (ne_of_beq_false hr) (ih hx)

/-- Characters without a terminator, and the line feed that closes them, are a line. -/
theorem splitChars_closed {x : List Char} (hfree : ∀ c ∈ x, isTerminator c = false) (t : List Char) :
    splitChars (x ++ '\n' :: t) = (x ++ ['\n']) :: splitChars t :=
  splitChars_append_of_cons hfree (by rw [splitChars])

/-! ## Two texts -/

/-- No line reaches from the first text into the second: the first is empty or ends with a terminator,
and the two do not meet in the middle of one. -/
def Apart (s t : List Char) : Prop :=
  ∀ c, s.getLast? = some c → c = '\n' ∨ (c = '\r' ∧ t.head? ≠ some '\n')

theorem Apart.tail {c : Char} {s t : List Char} (h : Apart (c :: s) t) : Apart s t := by
  intro d hd
  cases s with
  | nil => exact absurd hd (by simp)
  | cons e s =>
    refine h d ?_
    rwa [List.getLast?_cons_cons]

/-- A text that ends with a line feed is apart from whatever follows it. -/
theorem apart_append_newline (s t : List Char) : Apart (s ++ ['\n']) t := by
  intro c hc
  rw [List.getLast?_concat, Option.some.injEq] at hc
  exact Or.inl hc.symm

theorem splitChars_append {s t : List Char} (h : Apart s t) :
    splitChars (s ++ t) = splitChars s ++ splitChars t := by
  fun_induction splitChars s with
  | case1 => rfl
  | case2 r ih => rw [List.cons_append, splitChars, ih h.tail, List.cons_append]
  | case3 r ih =>
    rw [List.cons_append, List.cons_append, splitChars, ih h.tail.tail, List.cons_append]
  | case4 r hr ih =>
    have hnext : ∀ u, r ++ t = '\n' :: u → False := by
      intro u hu
      cases r with
      | nil =>
        rcases h '\r' rfl with hc | ⟨-, ht⟩
        · exact absurd hc (by decide)
        · exact ht (by rw [← List.nil_append t, hu, List.head?_cons])
      | cons d r => exact hr r (by rw [(List.cons.inj hu).1])
    rw [List.cons_append, splitChars, ih h.tail, List.cons_append]
    exact hnext
  | case5 c r hn _ hr hnil ih =>
    -- A line that is not closed would have to be the last of the first text.
    obtain rfl := splitChars_eq_nil hnil
    rcases h c rfl with hc | ⟨hc, -⟩
    · exact absurd hc hn
    · exact absurd hc hr
  | case6 c r hn _ hr l ls hls ih =>
    have happend : splitChars (r ++ t) = l :: (ls ++ splitChars t) := by
      rw [ih h.tail, hls, List.cons_append]
    rw [List.cons_append, splitChars_cons_of_cons hn hr happend, List.cons_append]

/-! ## Bodies and ends -/

theorem dropEndWhile_append_end {x t : List Char} (hfree : ∀ c ∈ x, isTerminator c = false)
    (ht : IsEnd t) : dropEndWhile isTerminator (x ++ t) = x := by
  rw [Text.dropEndWhile_append ht.isTerminator, Text.dropEndWhile_of_forall hfree]

theorem Lines.isTerminator_of_mem {ls : List (List Char)} (h : Lines ls) {l : List Char}
    (hl : l ∈ ls) {c : Char} (hc : c ∈ dropEndWhile isTerminator l) : isTerminator c = false := by
  induction h with
  | nil => exact absurd hl List.not_mem_nil
  | last _ hfree =>
    rw [List.mem_singleton.mp hl, Text.dropEndWhile_of_forall hfree] at hc
    exact hfree c hc
  | cons hfree ht _ ih =>
    rcases List.mem_cons.mp hl with rfl | hl
    · rw [dropEndWhile_append_end hfree ht] at hc
      exact hfree c hc
    · exact ih hl

theorem Lines.pairwise {ls : List (List Char)} (h : Lines ls) :
    ls.Pairwise fun l _ => (dropEndWhile isTerminator l).length < l.length := by
  induction h with
  | nil => exact .nil
  | last => exact List.pairwise_singleton _ _
  | cons hfree ht _ ih =>
    refine List.pairwise_cons.mpr ⟨fun _ _ => ?_, ih⟩
    rw [dropEndWhile_append_end hfree ht, List.length_append]
    exact Nat.lt_add_of_pos_right ht.length_pos

/-! ## Texts -/

@[simp] theorem toList_body (line : String) :
    (body line).toList = dropEndWhile isTerminator line.toList := by
  rw [body, String.toList_ofList]

theorem isTerminator_of_mem_body {content line : String} (h : line ∈ split content) {c : Char}
    (hc : c ∈ (body line).toList) : isTerminator c = false := by
  obtain ⟨l, hl, rfl⟩ := List.mem_map.mp h
  rw [toList_body, String.toList_ofList] at hc
  exact (lines_splitChars content.toList).isTerminator_of_mem hl hc

/-- The lines of two texts that are apart, one behind the other. -/
theorem split_append {s t : String} (h : Apart s.toList t.toList) :
    split (s ++ t) = split s ++ split t := by
  rw [split, split, split, String.toList_append, splitChars_append h, List.map_append]

/-- Every line that another follows has a terminator. -/
theorem pairwise_isClosed (content : String) :
    (split content).Pairwise fun l _ => isClosed l = true := by
  refine List.pairwise_map.mpr ((lines_splitChars content.toList).pairwise.imp fun {l _} h => ?_)
  rw [isClosed, decide_eq_true_iff, ← String.length_toList, ← String.length_toList, toList_body,
    String.toList_ofList]
  exact h

/-- A line is its body with terminators behind it. -/
theorem exists_terminators (line : String) :
    ∃ t, line.toList = (body line).toList ++ t ∧ ∀ c ∈ t, isTerminator c = true := by
  rw [toList_body]
  exact Text.exists_append_dropEndWhile isTerminator line.toList

/-- A line is closed if its last character is a terminator. -/
theorem isClosed_iff (line : String) :
    isClosed line = true ↔ ∃ c, line.toList.getLast? = some c ∧ isTerminator c = true := by
  have hclosed : isClosed line = true ↔ (body line).toList.length < line.toList.length := by
    rw [isClosed, decide_eq_true_iff, String.length_toList, String.length_toList]
  obtain ⟨t, ht, hterm⟩ := exists_terminators line
  rw [hclosed, ht, List.length_append]
  rcases List.eq_nil_or_concat t with rfl | ⟨t, c, rfl⟩
  · rw [List.length_nil, Nat.add_zero, List.append_nil]
    refine iff_of_false (Nat.lt_irrefl _) ?_
    rintro ⟨c, hc, hcterm⟩
    rw [toList_body] at hc
    exact absurd (hcterm.symm.trans (Text.eq_false_of_getLast?_dropEndWhile hc)) (by decide)
  · rw [List.concat_eq_append] at hterm ⊢
    refine iff_of_true ?_ ⟨c, ?_, hterm c (by simp)⟩
    · rw [List.length_append, List.length_singleton]
      omega
    · rw [← List.append_assoc, List.getLast?_concat]

theorem isBlank_of_isTerminator {c : Char} (h : isTerminator c = true) :
    Text.isBlank c = true := by
  rw [isTerminator, Bool.or_eq_true, beq_iff_eq, beq_iff_eq] at h
  rcases h with rfl | rfl
  · decide
  · decide

/-- Trimming does not see how a line was ended. -/
theorem trim_body (line : String) : Text.trim (body line) = Text.trim line := by
  obtain ⟨t, ht, hterm⟩ := exists_terminators line
  rw [Text.trim, Text.trim, ht, Text.trimChars_append fun c hc => isBlank_of_isTerminator (hterm c hc)]

/-! ## Numbered lines -/

/-- The line of a text with a number, counted from one. -/
def numbered? (content : String) : Nat → Option String
  | 0 => none
  | n + 1 => (split content)[n]?

/-- Lines are numbered from one on. -/
theorem bounds_of_numbered? {content line : String} {n : Nat} (h : numbered? content n = some line) :
    1 ≤ n ∧ n ≤ (split content).length := by
  cases n with
  | zero => simp [numbered?] at h
  | succ n =>
    obtain ⟨hlt, -⟩ := List.getElem?_eq_some_iff.mp h
    omega

/-- A line with its index is the first one, or a later one with the indices moved on. -/
theorem exists_getElem?_cons (P : Nat → String → Prop) {i : Nat} {l : String} {ls : List String} :
    (∃ k line, (l :: ls)[k]? = some line ∧ P (i + k) line) ↔
      P i l ∨ ∃ k line, ls[k]? = some line ∧ P (i + 1 + k) line := by
  have hmove (k : Nat) : i + 1 + k = i + (k + 1) := by omega
  constructor
  · rintro ⟨k, line, hk, h⟩
    cases k with
    | zero => exact Or.inl (by rwa [Option.some.inj hk])
    | succ k => exact Or.inr ⟨k, line, hk, by rwa [hmove]⟩
  · rintro (h | ⟨k, line, hk, h⟩)
    · exact ⟨0, l, rfl, h⟩
    · exact ⟨k + 1, line, hk, by rwa [hmove] at h⟩

end SinkAudit.Scan.Line

import Mathlib.Data.List.Chain
import SinkAudit.Proofs.Scan.Line
import SinkAudit.Proofs.Text.Encoding

/-!
# Universal newlines

The lines of a text can be described without saying how they are found.  They are pieces that give the
text again when they are put end to end; all but the last end with a line feed, a carriage return, or
the two together; nothing that ends a line stands further to the front of a piece; and no border
between two pieces tears a carriage return from its line feed.  There is one such list for each text
(`UniversalSplit.eq_splitChars`).

The lines may be looked for in the bytes of the text as well (`spans`).  The bytes of the two
terminators are below 128 and so are part of no other character.  Hence a line begins and ends at the
border of a character, and what is cut out of the bytes is a text.

* `UniversalSplit`: what the lines of a text are, and `universalSplit_splitChars`.
* `spans`, `spans_encoded`: where they stand in the bytes.
* `split_universal`: the lines of a text, described and cut out of its bytes.
-/

namespace SinkAudit.Scan.Line

open Text (encoded slice?)

/-! ## The pieces of a text -/

/-- The pieces of a text that is split at every line end, whatever ends the line. -/
structure UniversalSplit (s : List Char) (ls : List (List Char)) : Prop where
  flatten_eq : ls.flatten = s
  nonempty : ∀ l ∈ ls, l ≠ []
  ended : ∀ l ∈ ls.dropLast, ∃ t, IsEnd t ∧ t <:+ l
  free : ∀ l ∈ ls, ∃ x t, l = x ++ t ∧ (∀ c ∈ x, isTerminator c = false) ∧ (t = [] ∨ IsEnd t)
  joined : ls.IsChain fun l m => ¬(l.getLast? = some '\r' ∧ m.head? = some '\n')

theorem flatten_splitChars (s : List Char) : (splitChars s).flatten = s := by
  fun_induction splitChars s with
  | case1 => rfl
  | case2 r ih => rw [List.flatten_cons, ih, List.singleton_append]
  | case3 r ih => rw [List.flatten_cons, ih, List.cons_append, List.singleton_append]
  | case4 r _ ih => rw [List.flatten_cons, ih, List.singleton_append]
  | case5 c r _ _ _ hnil _ => rw [splitChars_eq_nil hnil, List.flatten_singleton]
  | case6 c r _ _ _ l ls hls ih =>
    rw [hls, List.flatten_cons] at ih
    rw [List.flatten_cons, List.cons_append, ih]

theorem Lines.ne_nil {ls : List (List Char)} (h : Lines ls) : ∀ l ∈ ls, l ≠ [] := by
  induction h with
  | nil => exact fun l hl => absurd hl List.not_mem_nil
  | last hx _ => exact fun l hl => List.mem_singleton.mp hl ▸ hx
  | cons _ ht _ ih =>
    refine List.forall_mem_cons.mpr ⟨?_, ih⟩
    exact List.append_ne_nil_of_right_ne_nil _ (List.ne_nil_of_length_pos ht.length_pos)

theorem Lines.free {ls : List (List Char)} (h : Lines ls) :
    ∀ l ∈ ls, ∃ x t, l = x ++ t ∧ (∀ c ∈ x, isTerminator c = false) ∧ (t = [] ∨ IsEnd t) := by
  induction h with
  | nil => exact fun l hl => absurd hl List.not_mem_nil
  | @last x _ hfree =>
    intro l hl
    exact ⟨x, [], by rw [List.mem_singleton.mp hl, List.append_nil], hfree, Or.inl rfl⟩
  | @cons x t _ hfree ht _ ih =>
    exact List.forall_mem_cons.mpr ⟨⟨x, t, rfl, hfree, Or.inr ht⟩, ih⟩

theorem Lines.ended {ls : List (List Char)} (h : Lines ls) :
    ∀ l ∈ ls.dropLast, ∃ t, IsEnd t ∧ t <:+ l := by
  induction h with
  | nil => exact fun l hl => absurd hl List.not_mem_nil
  | last => exact fun l hl => absurd hl List.not_mem_nil
  | @cons x t ls _ ht _ ih =>
    cases ls with
    | nil => exact fun l hl => absurd hl List.not_mem_nil
    | cons m ls =>
      rw [List.dropLast_cons_of_ne_nil (List.cons_ne_nil m ls)]
      exact List.forall_mem_cons.mpr ⟨⟨t, ht, List.suffix_append x t⟩, ih⟩

/-- The first line of a text begins as the text does. -/
theorem head?_of_splitChars {s l : List Char} {ls : List (List Char)} (h : splitChars s = l :: ls) :
    l.head? = s.head? := by
  have hne : l ≠ [] := (lines_splitChars s).ne_nil l (h ▸ List.mem_cons_self)
  rw [← flatten_splitChars s, h, List.flatten_cons, List.head?_append_of_ne_nil _ hne]

/-- A carriage return and the line feed behind it are in one line. -/
theorem isChain_splitChars (s : List Char) :
    (splitChars s).IsChain fun l m => ¬(l.getLast? = some '\r' ∧ m.head? = some '\n') := by
  fun_induction splitChars s with
  | case1 => exact List.isChain_nil
  | case2 r ih => exact List.isChain_cons.mpr ⟨fun m _ h => absurd h.1 (by decide), ih⟩
  | case3 r ih => exact List.isChain_cons.mpr ⟨fun m _ h => absurd h.1 (by decide), ih⟩
  | case4 r hr ih =>
    refine List.isChain_cons.mpr ⟨fun m hm h => ?_, ih⟩
    obtain ⟨ls, hls⟩ : ∃ ls, splitChars r = m :: ls := List.head?_eq_some_iff.mp hm
    have hhead := (head?_of_splitChars hls).symm.trans h.2
    obtain ⟨u, hu⟩ := List.head?_eq_some_iff.mp hhead
    exact hr u hu
  | case5 => exact List.isChain_singleton _
  | case6 c r _ _ _ l ls hls ih =>
    -- A character in front of a line leaves the end of the line as it is.
    have hne : l ≠ [] := (lines_splitChars r).ne_nil l (hls ▸ List.mem_cons_self)
    rw [hls] at ih
    obtain ⟨hfirst, hrest⟩ := List.isChain_cons.mp ih
    refine List.isChain_cons.mpr ⟨fun m hm h => hfirst m hm ⟨?_, h.2⟩, hrest⟩
    rw [← h.1, List.getLast?_cons_of_ne_nil hne]

theorem universalSplit_splitChars (s : List Char) : UniversalSplit s (splitChars s) where
  flatten_eq := flatten_splitChars s
  nonempty := (lines_splitChars s).ne_nil
  ended := (lines_splitChars s).ended
  free := (lines_splitChars s).free
  joined := isChain_splitChars s

/-- A line of a text is its body and at most one end. -/
theorem exists_end_of_mem_split {content line : String} (h : line ∈ split content) :
    ∃ t, line.toList = (body line).toList ++ t ∧ (t = [] ∨ IsEnd t) := by
  obtain ⟨l, hl, rfl⟩ := List.mem_map.mp h
  obtain ⟨x, t, rfl, hfree, ht⟩ := (lines_splitChars content.toList).free l hl
  refine ⟨t, ?_, ht⟩
  rw [toList_body, String.toList_ofList]
  rcases ht with rfl | ht
  · rw [List.append_nil, Text.dropEndWhile_of_forall hfree, List.append_nil]
  · rw [dropEndWhile_append_end hfree ht]

/-! ## No other pieces -/

namespace UniversalSplit

variable {s l m : List Char} {ls : List (List Char)}

theorem tail (h : UniversalSplit s (l :: ls)) : UniversalSplit ls.flatten ls where
  flatten_eq := rfl
  nonempty := (List.forall_mem_cons.mp h.nonempty).2
  ended := by
    intro k hk
    have hne : ls ≠ [] := by
      rintro rfl
      exact absurd hk List.not_mem_nil
    refine h.ended k ?_
    rw [List.dropLast_cons_of_ne_nil hne]
    exact List.mem_cons_of_mem l hk
  free := (List.forall_mem_cons.mp h.free).2
  joined := (List.isChain_cons.mp h.joined).2

/-- A piece that another follows is apart from it. -/
theorem apart (h : UniversalSplit s (l :: m :: ls)) : Apart l (m :: ls).flatten := by
  intro c hc
  have hmem : l ∈ (l :: m :: ls).dropLast := by
    rw [List.dropLast_cons_of_ne_nil (List.cons_ne_nil m ls)]
    exact List.mem_cons_self
  have hm : m ≠ [] := h.nonempty m (List.mem_cons_of_mem l List.mem_cons_self)
  have hjoined := (List.isChain_cons_cons.mp h.joined).1
  obtain ⟨t, ht, u, rfl⟩ := h.ended l hmem
  rw [List.flatten_cons, List.head?_append_of_ne_nil _ hm]
  cases ht with
  | feed => exact Or.inl (by simpa using hc.symm)
  | both => exact Or.inl (by simpa using hc.symm)
  | carriage =>
    have hlast : (u ++ ['\r']).getLast? = some '\r' := List.getLast?_concat
    refine Or.inr ⟨Option.some.inj (hc.symm.trans hlast), fun hhead => hjoined ⟨hlast, hhead⟩⟩

/-- A piece by itself is one line. -/
theorem splitChars_first (h : UniversalSplit s (l :: ls)) : splitChars l = [l] := by
  obtain ⟨x, t, rfl, hfree, ht⟩ := h.free l List.mem_cons_self
  rcases ht with rfl | ht
  · have hne : x ++ [] ≠ [] := h.nonempty _ List.mem_cons_self
    rw [List.append_nil] at hne ⊢
    obtain ⟨y, c, rfl⟩ : ∃ y c, x = y ++ [c] :=
      ⟨x.dropLast, x.getLast hne, (List.dropLast_append_getLast hne).symm⟩
    obtain ⟨hr, hn⟩ := Bool.or_eq_false_iff.mp (hfree c (by simp))
    exact splitChars_append_of_cons (fun d hd => hfree d (List.mem_append_left _ hd))
      (splitChars_cons_of_nil (ne_of_beq_false hn) (ne_of_beq_false hr) rfl)
  · refine splitChars_append_of_cons hfree ?_
    cases ht <;> rfl

/-- There are no pieces of a text but its lines. -/
theorem eq_splitChars (h : UniversalSplit s ls) : ls = splitChars s := by
  rw [← h.flatten_eq]
  induction ls generalizing s with
  | nil => rfl
  | cons l ls ih =>
    cases ls with
    | nil => rw [List.flatten_singleton, h.splitChars_first]
    | cons m ls =>
      rw [List.flatten_cons, splitChars_append h.apart, h.splitChars_first, ← ih h.tail,
        List.singleton_append]

end UniversalSplit

/-! ## Lines in bytes -/

/-- Where the lines stand in bytes, each from its first byte up to the one behind its last; `start` is
the first byte of the current line and `i` that of the bytes that follow. -/
def spans : Nat → Nat → List UInt8 → List (Nat × Nat)
  | start, i, [] => if start < i then [(start, i)] else []
  | start, i, 10 :: r => (start, i + 1) :: spans (i + 1) (i + 1) r
  | start, i, 13 :: 10 :: r => (start, i + 2) :: spans (i + 2) (i + 2) r
  | start, i, 13 :: r => (start, i + 1) :: spans (i + 1) (i + 1) r
  | start, i, _ :: r => spans start (i + 1) r

/-- Where lines stand that follow each other; the first one has begun at `start`. -/
def placed : Nat → Nat → List (List Char) → List (Nat × Nat)
  | start, i, [] => if start < i then [(start, i)] else []
  | start, i, l :: ls =>
    (start, i + (encoded l).length) ::
      placed (i + (encoded l).length) (i + (encoded l).length) ls

/-- The bytes of an ordinary character are passed over. -/
theorem spans_append {x : List UInt8} (hfeed : 10 ∉ x) (hreturn : 13 ∉ x) (start i : Nat)
    (r : List UInt8) : spans start i (x ++ r) = spans start (i + x.length) r := by
  induction x generalizing i with
  | nil => rfl
  | cons b x ih =>
    rw [List.mem_cons, not_or] at hfeed hreturn
    rw [List.cons_append, spans, ih hfeed.2 hreturn.2, List.length_cons, Nat.add_right_comm,
      Nat.add_assoc]
    · exact fun h => hfeed.1 h.symm
    · exact fun _ h _ => hreturn.1 h.symm
    · exact fun h => hreturn.1 h.symm

/-- Bytes begin with a line feed only if the text does. -/
theorem encoded_ne_cons_feed {s : List Char} (h : ∀ u, s = '\n' :: u → False) (v : List UInt8) :
    encoded s ≠ 10 :: v := by
  cases s with
  | nil => exact fun hv => nomatch hv
  | cons c s =>
    intro hv
    have hc : c ≠ '\n' := by
      rintro rfl
      exact h s rfl
    obtain ⟨b, bs, hbs⟩ := List.exists_cons_of_ne_nil (String.utf8EncodeChar_ne_nil (c := c))
    rw [Text.encoded_cons, hbs, List.cons_append] at hv
    have hmem : 10 ∈ String.utf8EncodeChar c := by
      rw [hbs, (List.cons.inj hv).1]
      exact List.mem_cons_self
    exact Text.notMem_utf8EncodeChar (by decide) hc hmem

/-- The bytes of an ordinary character belong to the line that has begun. -/
theorem spans_cons {c : Char} (hn : c ≠ '\n') (hr : c ≠ '\r') (start i : Nat) (r : List Char) :
    spans start i (encoded (c :: r)) =
      spans start (i + (String.utf8EncodeChar c).length) (encoded r) := by
  rw [Text.encoded_cons]
  exact spans_append (Text.notMem_utf8EncodeChar (by decide) hn) (Text.notMem_utf8EncodeChar (by decide) hr)
    start i (encoded r)

/-- The lines of a text stand in its bytes one behind the other. -/
theorem spans_encoded (s : List Char) {start i : Nat} (hstart : start ≤ i) :
    spans start i (encoded s) = placed start i (splitChars s) := by
  fun_induction splitChars s generalizing start i with
  | case1 => rfl
  | case2 r ih =>
    have hbytes : encoded ('\n' :: r) = 10 :: encoded r := rfl
    rw [hbytes, spans, ih (Nat.le_refl _)]
    rfl
  | case3 r ih =>
    have hbytes : encoded ('\r' :: '\n' :: r) = 13 :: 10 :: encoded r := rfl
    rw [hbytes, spans, ih (Nat.le_refl _)]
    rfl
  | case4 r hr ih =>
    have hbytes : encoded ('\r' :: r) = 13 :: encoded r := rfl
    rw [hbytes, spans, ih (Nat.le_refl _)]
    · rfl
    · exact encoded_ne_cons_feed hr
  | case5 c r hn _ hr hnil ih =>
    have hsize : 0 < (String.utf8EncodeChar c).length :=
      List.length_pos_iff.mpr String.utf8EncodeChar_ne_nil
    have hbytes : encoded [c] = String.utf8EncodeChar c := by
      rw [Text.encoded_cons, Text.encoded_nil, List.append_nil]
    rw [spans_cons hn hr, splitChars_eq_nil hnil, Text.encoded_nil, spans, if_pos (by omega), placed,
      placed, if_neg (Nat.lt_irrefl _), hbytes]
  | case6 c r hn _ hr l ls hls ih =>
    rw [hls] at ih
    rw [spans_cons hn hr, ih (by omega), placed, placed, Text.encoded_cons, List.length_append,
      Nat.add_assoc]

/-- The lines that stand in a text one behind the other can be cut out of it. -/
theorem map_slice?_placed (done : List Char) (ls : List (List Char)) :
    (placed (encoded done).length (encoded done).length ls).map
        (slice? (String.ofList (done ++ ls.flatten))) =
      ls.map fun l => some (String.ofList l) := by
  induction ls generalizing done with
  | nil =>
    rw [placed, if_neg (Nat.lt_irrefl _)]
    rfl
  | cons l ls ih =>
    have hnext := ih (done ++ l)
    rw [Text.encoded_append, List.length_append, List.append_assoc] at hnext
    rw [placed, List.map_cons, List.flatten_cons, hnext, List.map_cons, Text.slice?_ofList]

theorem map_toList_split (content : String) :
    (split content).map String.toList = splitChars content.toList := by
  have hid : String.toList ∘ String.ofList = id := funext fun _ => String.toList_ofList
  rw [split, List.map_map, hid, List.map_id]

/-- **The lines of a text.**  They can be looked for in its bytes: each begins and ends at the border of
a character, and what is cut out there is the line.  And they are the only pieces of the text of which
none is empty, that give the text when they are put end to end, of which each but the last ends with a
line feed, with a carriage return or with both, that have no other line feed or carriage return in them,
and that keep a carriage return together with the line feed behind it. -/
theorem split_universal (content : String) :
    (spans 0 0 content.toUTF8.data.toList).map (slice? content) = (split content).map some ∧
      ∀ pieces : List String, UniversalSplit content.toList (pieces.map String.toList) ↔
        pieces = split content := by
  have hbytes : content.toUTF8.data.toList = encoded content.toList := Text.toList_toUTF8 content
  refine ⟨?_, fun pieces => ?_⟩
  · have hslices := map_slice?_placed [] (splitChars content.toList)
    rw [List.nil_append, flatten_splitChars, String.ofList_toList] at hslices
    rw [hbytes, spans_encoded _ (Nat.le_refl 0), split, List.map_map]
    exact hslices
  · have hchars : pieces.map String.toList = (split content).map String.toList ↔ pieces = split content :=
      List.map_inj_right fun _ _ => String.toList_inj.mp
    rw [← hchars, map_toList_split]
    constructor
    · exact UniversalSplit.eq_splitChars
    · intro h
      rw [h]
      exact universalSplit_splitChars content.toList

end SinkAudit.Scan.Line

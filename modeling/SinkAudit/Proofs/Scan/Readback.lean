import Mathlib.Data.List.Forall2
import SinkAudit.Proofs.Scan.Universal
import SinkAudit.Proofs.Scan.Window
import SinkAudit.Proofs.Text.Rows

/-!
# The rows of a window

A row of a window can be read by itself.  Behind the blanks that fill the column stands the number,
however wide it is, and the first blank behind its digits ends it; the mark has its place in the
separator; all that follows is the text, also where it looks like the front of a row.

No text has a terminator in it, so the line feeds of a window are the ends of its rows.  The rows
follow each other as the lines of the source do.

* `Reading`, `written`, `read?`: what a row says, how it is written and how it is read.
* `read?_written`: reading undoes writing.
* `Legible.rowsFrom_eq`: the rows between the line feeds of a window.
* `Depicts`, `contextWindow_readable`: a window shows its lines, each in a row of its own.
-/

namespace SinkAudit.Scan.Window

open Text (padLeft rowsFrom)

/-! ## One row -/

/-- What a row says: the number of a line, whether the line is the target, and its text. -/
structure Reading where
  number : Nat
  marked : Bool
  text : List Char
  deriving DecidableEq

/-- The mark that a character is. -/
def mark? : Char → Option Bool
  | '>' => some true
  | ' ' => some false
  | _ => none

/-- What a row says, if it is one. -/
def read? (row : List Char) : Option Reading :=
  let numeral := row.dropWhile (· == ' ')
  match numeral.dropWhile Char.isDigit with
  | ' ' :: '|' :: ' ' :: c :: ' ' :: text =>
    (mark? c).map fun marked => ⟨decimal (numeral.takeWhile Char.isDigit), marked, text⟩
  | _ => none

namespace Reading

/-- What stands behind the number. -/
def tail (x : Reading) : List Char :=
  ' ' :: '|' :: ' ' :: (if x.marked then '>' else ' ') :: ' ' :: x.text

/-- The row that says this, without a line feed. -/
def written (x : Reading) : List Char :=
  (padLeft 4 (toString x.number)).toList ++ x.tail

theorem mark?_mark (b : Bool) : mark? (if b then '>' else ' ') = some b := by
  cases b <;> rfl

/-- Reading a row undoes writing it. -/
theorem read?_written (x : Reading) : read? x.written = some x := by
  have hblank : ∀ c ∈ List.replicate (4 - (toString x.number).length) ' ', (c == ' ') = true := by
    intro c hc
    rw [(List.mem_replicate.mp hc).2]
    rfl
  have hdigit : ∀ c ∈ (toString x.number).toList, c.isDigit = true :=
    fun c hc => Decimal.isDigit_of_mem_toString hc
  obtain ⟨d, ds, hds⟩ := List.exists_cons_of_ne_nil (Decimal.toList_toString_ne_nil x.number)
  have hd : (d == ' ') = false :=
    beq_false_of_ne (Decimal.ne_of_mem_toString (n := x.number) (hds ▸ List.mem_cons_self) (by decide))
  -- The blanks go, then the digits are the longest run of digits.
  have hnumeral : x.written.dropWhile (· == ' ') = (toString x.number).toList ++ x.tail := by
    rw [written, toList_padLeft, List.append_assoc, List.dropWhile_append_of_pos hblank, hds,
      List.cons_append, List.dropWhile_cons_of_neg (Bool.not_eq_true _ ▸ hd)]
  have hrest : ((toString x.number).toList ++ x.tail).dropWhile Char.isDigit = x.tail := by
    rw [List.dropWhile_append_of_pos hdigit, tail, List.dropWhile_cons_of_neg (by decide)]
  have hdigits : ((toString x.number).toList ++ x.tail).takeWhile Char.isDigit =
      (toString x.number).toList := by
    rw [List.takeWhile_append_of_pos hdigit, tail, List.takeWhile_cons_of_neg (by decide),
      List.append_nil]
  simp only [read?, hnumeral, hrest, hdigits]
  simp only [tail, mark?_mark, Option.map_some, Decimal.decimal_toString]

theorem written_ne_nil (x : Reading) : x.written ≠ [] :=
  List.append_ne_nil_of_right_ne_nil _ (List.cons_ne_nil _ _)

/-- A row has no terminator in it but those of its text. -/
theorem notMem_written {x : Reading} {c : Char} (hc : Line.isTerminator c = true) (hx : c ∉ x.text) :
    c ∉ x.written := by
  have hne : ∀ d, Line.isTerminator d = false → c ≠ d := by
    rintro d hd rfl
    exact absurd (hc.symm.trans hd) (by decide)
  have hmark : c ≠ if x.marked then '>' else ' ' := by
    split
    · exact hne _ (by decide)
    · exact hne _ (by decide)
  rw [written, toList_padLeft, tail]
  simp only [List.mem_append, List.mem_cons, List.mem_replicate, not_or, not_and]
  refine ⟨⟨fun _ => hne _ (by decide), fun hmem => ?_⟩, hne _ (by decide), hne _ (by decide),
    hne _ (by decide), hmark, hne _ (by decide), hx⟩
  rw [Line.isTerminator, Bool.or_eq_true, beq_iff_eq, beq_iff_eq] at hc
  rcases hc with hc | hc
  · exact Decimal.ne_of_mem_toString hmem (by decide) hc
  · exact Decimal.ne_of_mem_toString hmem (by decide) hc

end Reading

/-- What a row says of the line that it shows. -/
def Shown.reading (x : Shown) : Reading :=
  ⟨x.number, x.marked, x.text⟩

theorem Shown.render_eq (x : Shown) :
    x.render = x.reading.written ++ if x.closed then ['\n'] else [] := by
  simp only [render, tail, Reading.written, Reading.tail, reading, List.append_assoc, List.cons_append]
  rfl

/-! ## Rows between line feeds -/

theorem dropReturn_of_notMem {row : List Char} (h : '\r' ∉ row) : Text.dropReturn row = row := by
  rcases Text.dropReturn_cases row with hrow | hrow
  · exact hrow
  · exact absurd (hrow ▸ List.mem_append_right _ List.mem_cons_self) h

/-- The rows of a window are what stands between its line feeds. -/
theorem Legible.rowsFrom_eq {xs : List Shown} (h : Legible xs) (hreturn : ∀ x ∈ xs, '\r' ∉ x.text) :
    rowsFrom [] (xs.flatMap Shown.render) = xs.map fun x => x.reading.written := by
  induction xs with
  | nil => rfl
  | cons x xs ih =>
    obtain ⟨hx, hxs⟩ := List.forall_mem_cons.mp hreturn
    have hfeed : '\n' ∉ x.reading.written :=
      Reading.notMem_written (by decide) (h.text x List.mem_cons_self)
    have hdrop : Text.dropReturn x.reading.written = x.reading.written :=
      dropReturn_of_notMem (Reading.notMem_written (by decide) hx)
    rw [List.flatMap_cons, Shown.render_eq, List.append_assoc,
      Text.rowsFrom_append_of_notMem _ _ _ hfeed, List.append_nil, List.map_cons]
    cases hclosed : x.closed with
    | true =>
      rw [if_pos rfl, List.singleton_append, Text.rowsFrom_newline, List.reverse_reverse, hdrop,
        ih h.tail hxs]
    | false =>
      obtain rfl := h.eq_nil_of_open hclosed
      have hne : x.reading.written.reverse.isEmpty = false :=
        List.isEmpty_eq_false_iff.mpr (List.reverse_ne_nil_iff.mpr x.reading.written_ne_nil)
      rw [if_neg Bool.false_ne_true, List.nil_append, List.flatMap_nil, rowsFrom, hne,
        if_neg Bool.false_ne_true, List.reverse_reverse, List.map_nil]

/-- A window ends with a line feed if its last row does. -/
theorem Legible.getLast?_eq_iff {xs : List Shown} (h : Legible xs) :
    (xs.flatMap Shown.render).getLast? = some '\n' ↔ (xs.map Shown.closed).getLast? = some true := by
  rcases List.eq_nil_or_concat xs with rfl | ⟨ys, x, rfl⟩
  · simp
  · rw [List.concat_eq_append] at h ⊢
    have hfeed : '\n' ∉ x.reading.written :=
      Reading.notMem_written (by decide) (h.text x (by simp))
    rw [List.flatMap_append, List.flatMap_singleton, List.map_append, List.map_singleton,
      List.getLast?_concat, Shown.render_eq]
    cases hclosed : x.closed with
    | true => rw [if_pos rfl, ← List.append_assoc, List.getLast?_concat, eq_self, eq_self]
    | false =>
      rw [if_neg Bool.false_ne_true, List.append_nil,
        List.getLast?_append_of_ne_nil _ x.reading.written_ne_nil]
      exact iff_of_false (fun hlast => hfeed (List.mem_of_getLast? hlast)) (by simp)

/-! ## Lines and rows -/

/-- The rows for a run of lines are those of the lines one by one, in their order. -/
theorem forall₂_shown {lines : List String} (target : Nat) {i : Nat} {ls : List String}
    (hls : ∀ k line, ls[k]? = some line → lines[i + k]? = some line) :
    List.Forall₂ (fun x index => ∃ line, lines[index]? = some line ∧
        x = Shown.ofLine target index line) (shown target i ls) (List.range' i ls.length) := by
  induction ls generalizing i with
  | nil => exact List.Forall₂.nil
  | cons l ls ih =>
    have hfirst : lines[i]? = some l := hls 0 l rfl
    rw [shown, List.length_cons, List.range'_succ]
    refine List.Forall₂.cons ⟨l, hfirst, rfl⟩ (ih fun k line hk => ?_)
    rw [Nat.add_right_comm, Nat.add_assoc]
    exact hls (k + 1) line hk

theorem map_closed_shown (target i : Nat) (ls : List String) :
    (shown target i ls).map Shown.closed = ls.map Line.isClosed := by
  induction ls generalizing i with
  | nil => rfl
  | cons l ls ih => rw [shown, List.map_cons, ih, List.map_cons, Shown.ofLine]

/-- A row shows the line with an index: the number, the mark and the text without its terminator can be
read from it, and what is read there is all that the row can have been written for. -/
def Depicts (lines : List String) (target : Nat) (row : String) (index : Nat) : Prop :=
  ∃ (x : Reading) (line : String) (t : List Char),
    read? row.toList = some x ∧ (∀ y : Reading, y.written = row.toList ↔ y = x) ∧
    x.number = index + 1 ∧ (x.marked = true ↔ index = target) ∧
    lines[index]? = some line ∧ line.toList = x.text ++ t ∧
    (∀ c ∈ x.text, Line.isTerminator c = false) ∧ (t = [] ∨ Line.IsEnd t)

/-- Different readings are written differently. -/
theorem Reading.written_inj {x y : Reading} : x.written = y.written ↔ x = y := by
  refine ⟨fun h => ?_, fun h => by rw [h]⟩
  have hread := read?_written x
  rw [h, read?_written] at hread
  exact (Option.some.inj hread).symm

/-- The row of a line shows it. -/
theorem depicts_ofLine {content : String} {target index : Nat} {line : String}
    (hline : (Line.split content)[index]? = some line) :
    Depicts (Line.split content) target
      (String.ofList (Shown.ofLine target index line).reading.written) index := by
  have hmem : line ∈ Line.split content := List.mem_of_getElem? hline
  obtain ⟨t, ht, hend⟩ := Line.exists_end_of_mem_split hmem
  have hfree : ∀ c ∈ (Line.body line).toList, Line.isTerminator c = false :=
    fun c hc => Line.isTerminator_of_mem_body hmem hc
  rw [Shown.reading, Shown.ofLine]
  generalize (Line.body line).toList = text at ht hfree ⊢
  refine ⟨⟨index + 1, decide (index = target), text⟩, line, t, ?_, ?_, rfl, decide_eq_true_iff,
    hline, ht, hfree, hend⟩
  · rw [String.toList_ofList, Reading.read?_written]
  · intro y
    rw [String.toList_ofList, Reading.written_inj]

theorem return_notMem_text {content : String} {target radius : Nat} {x : Shown}
    (hx : x ∈ visible (Line.split content) target radius) : '\r' ∉ x.text := by
  obtain ⟨index, line, -, -, hline, rfl⟩ := mem_visible.mp hx
  rw [Shown.text_ofLine]
  intro hmem
  exact absurd (Line.isTerminator_of_mem_body (List.mem_of_getElem? hline) hmem) (by decide)

/-- The rows of a window, each for what it shows. -/
theorem rows_plain (content : String) (target radius : Nat) :
    Text.rows (plain (Line.split content) target radius) =
      (visible (Line.split content) target radius).map fun x => String.ofList x.reading.written := by
  rw [Text.rows, toList_plain,
    (legible_visible content target radius).rowsFrom_eq fun x hx => return_notMem_text hx, List.map_map]
  rfl

theorem return_notMem_plain (content : String) (target radius : Nat) :
    '\r' ∉ (plain (Line.split content) target radius).toList := by
  rw [toList_plain]
  intro hmem
  obtain ⟨x, hx, hrow⟩ := List.mem_flatMap.mp hmem
  rw [Shown.render_eq, List.mem_append] at hrow
  rcases hrow with hrow | hend
  · exact Reading.notMem_written (by decide) (return_notMem_text hx) hrow
  · split at hend
    · exact absurd (List.mem_singleton.mp hend) (by decide)
    · exact absurd hend List.not_mem_nil

/-- **A window can be read back.**  If the sum for its upper end is a word, there is a window.  What stands
between its line feeds are rows, one for each line from `radius` lines before the target up to as many
behind it, as far as there are lines, and in their order.  From each of them the number of its line, the
mark and the text can be read, and in one way only.  The window has no carriage return in it and ends with
a line feed if a terminator ends its last line. -/
theorem contextWindow_readable (content : String) {target radius : Nat}
    (htarget : target < (Line.split content).length) (hbound : target + radius + 1 < wordSize) :
    let lines := Line.split content
    let first := target - radius
    let last := min lines.length (target + radius + 1)
    ∃ snippet, contextWindow lines target radius = .ok snippet ∧
      List.Forall₂ (Depicts lines target) (Text.rows snippet) (List.range' first (last - first)) ∧
      '\r' ∉ snippet.toList ∧
      (snippet.toList.getLast? = some '\n' ↔ ∃ line c, lines[last - 1]? = some line ∧
        line.toList.getLast? = some c ∧ Line.isTerminator c = true) := by
  intro lines first last
  have hvisible : visible lines target radius = shown target first ((lines.take last).drop first) := by
    rw [visible, limit, Nat.min_comm]
    rfl
  have hlength : ((lines.take last).drop first).length = last - first := by
    rw [List.length_drop, List.length_take, Nat.min_eq_left (Nat.min_le_left _ _)]
  refine ⟨plain lines target radius, contextWindow_of_lt hbound lines, ?_,
    return_notMem_plain content target radius, ?_⟩
  · rw [rows_plain, List.forall₂_map_left_iff, hvisible, ← hlength]
    have hshown : ∀ k line, ((lines.take last).drop first)[k]? = some line →
        lines[first + k]? = some line := by
      intro k line hk
      rw [List.getElem?_drop, List.getElem?_take] at hk
      split at hk
      · exact hk
      · exact absurd hk.symm (Option.some_ne_none line)
    refine (forall₂_shown target hshown).imp ?_
    rintro x index ⟨line, hline, rfl⟩
    exact depicts_ofLine hline
  · -- The last line shown is the one before the upper end.
    have hlt : first < last := by
      show target - radius < min (Line.split content).length (target + radius + 1)
      omega
    have hend : ((lines.take last).drop first).getLast? = lines[last - 1]? := by
      have hindex : first + (last - first - 1) = last - 1 := by omega
      rw [List.getLast?_eq_getElem?, hlength, List.getElem?_drop, List.getElem?_take, hindex,
        if_pos (by omega)]
    rw [toList_plain, (legible_visible content target radius).getLast?_eq_iff, hvisible,
      map_closed_shown, List.getLast?_map, hend, Option.map_eq_some_iff]
    simp only [Line.isClosed_iff, exists_and_left]

/-- The window of a text with all kinds of line ends, around a line that looks like a row itself. -/
theorem contextWindow_readable_imitated :
    1 < (Line.split "a\r\n   1 | > b\rc").length ∧ 1 + 1 + 1 < wordSize ∧
      ∃ snippet, contextWindow (Line.split "a\r\n   1 | > b\rc") 1 1 = .ok snippet ∧
        List.Forall₂ (Depicts (Line.split "a\r\n   1 | > b\rc") 1) (Text.rows snippet) [0, 1, 2] := by
  have htarget : 1 < (Line.split "a\r\n   1 | > b\rc").length := by decide
  have hbound : 1 + 1 + 1 < wordSize := by decide
  have hlength : (Line.split "a\r\n   1 | > b\rc").length = 3 := by decide
  obtain ⟨snippet, hsnippet, hrows, -⟩ :=
    contextWindow_readable "a\r\n   1 | > b\rc" htarget hbound
  rw [hlength] at hrows
  exact ⟨htarget, hbound, snippet, hsnippet, hrows⟩

end SinkAudit.Scan.Window

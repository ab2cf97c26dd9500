import SinkAudit.Proofs.Json.RoundTrip
import SinkAudit.Proofs.Store.Entries
import SinkAudit.Proofs.Text.Rows

/-!
# What a log says

A log is read row by row, and every row either is a record or counts for nothing.  So what a log says
after something has been added to it is what the added rows do to what it said before.

* `record?_compact`: a written record is read back.
* `entries_append_of_closed`: what is added to a closed log is read by itself.
* `entries_append_newline`: closing the last row of a log does not change what it says.
* `entries_append_addition`: adding a record inserts it; if the log stops in the middle of a row,
  that row is closed first.
* `entries_text`: the log that was written anew says what was to be written.
-/

namespace SinkAudit

/-! ## Records -/

theorem Severity.ofJson?_toJson (s : Severity) : Severity.ofJson? s.toJson = some s := by
  cases s <;> decide

/-- A verdict is read back from its JSON value. -/
theorem Verdict.ofJson?_toJson (v : Verdict) : Verdict.ofJson? v.toJson = some v := by
  obtain ⟨isVulnerable, severity, reasoning, fix⟩ := v
  simp [Verdict.ofJson?, Verdict.toJson, Json.object, Record.ofJson?, Record.pick?,
    Verdict.fieldNames, Record.required, Record.defaulted, Record.get?, Json.bool?, Json.string?,
    Json.text, Severity.ofJson?_toJson]

namespace Log

theorem isPlain_recordJson (sig : String) (v : Verdict) : (recordJson sig v).isPlain = true := rfl

/-- A written record is read back. -/
theorem record?_compact (sig : String) (v : Verdict) :
    record? (recordJson sig v).compact = some (sig, v) := by
  rw [record?, Json.parse?_compact _ (isPlain_recordJson sig v)]
  simp [recordJson, Json.object, Record.ofJson?, Record.pick?, Record.required, Record.get?,
    Json.string?, Json.text, Verdict.ofJson?_toJson]

/-- A carriage return at the end of a row does not matter. -/
theorem record?_dropReturn (row : List Char) :
    record? (String.ofList (Text.dropReturn row)) = record? (String.ofList row) := by
  rcases Text.dropReturn_cases row with h | h
  · rw [h]
  · have hrow : String.ofList row = String.ofList (Text.dropReturn row ++ ['\r']) :=
      congrArg String.ofList h
    rw [hrow, record?, record?, Json.parse?_append_gap _ rfl]

theorem record?_empty : record? (String.ofList []) = none := by
  rw [record?, Json.parse?, String.toList_ofList]
  rfl

theorem readRow_compact (es : Entries) (sig : String) (v : Verdict) :
    readRow es (recordJson sig v).compact = es.insert sig v := by
  rw [readRow, record?_compact]

theorem readRow_of_record?_eq_none {row : String} (h : record? row = none) (es : Entries) :
    readRow es row = es := by
  rw [readRow, h]

/-- Every row keeps the entries in order. -/
theorem sorted_readRow {es : Entries} (h : es.Sorted) (row : String) : (readRow es row).Sorted := by
  rw [readRow]
  split
  · exact Entries.sorted_insert _ _ h
  · exact h

theorem sorted_foldl_readRow (rows : List String) {es : Entries} (h : es.Sorted) :
    (rows.foldl readRow es).Sorted := by
  induction rows generalizing es with
  | nil => exact h
  | cons row rows ih => exact ih (sorted_readRow h row)

/-- What a log says is in order. -/
theorem sorted_entries (log : String) : (entries log).Sorted :=
  sorted_foldl_readRow (Text.rows log) Entries.sorted_nil

/-! ## Lines -/

/-- A record is one row. -/
theorem rows_line (sig : String) (v : Verdict) :
    Text.rows (line sig v) = [(recordJson sig v).compact] := by
  refine Text.rows_row (Json.newline_notMem_compact _ (isPlain_recordJson sig v)) ?_
  have hlast : ∀ members, (Json.obj members).compact.toList.getLast? = some '\x7d' := by
    intro members
    rw [Json.compact, String.toList_append]
    exact List.getLast?_concat
  rw [recordJson, Json.object, hlast]
  decide

theorem closed_line (sig : String) (v : Verdict) : Text.Closed (line sig v).toList := by
  rw [line, String.toList_append]
  exact Text.closed_append_newline _

theorem closed_text (es : Entries) : Text.Closed (text es).toList := by
  induction es with
  | nil => exact Text.closed_nil
  | cons e es ih =>
    rw [text, String.toList_append]
    exact Text.closed_append (closed_line e.1 e.2) ih

/-- A log is torn exactly if it is not closed. -/
theorem isTorn_eq_false_iff (log : String) : isTorn log = false ↔ Text.Closed log.toList := by
  rw [isTorn]
  cases hl : log.toList.getLast? with
  | none =>
    have hnil : log.toList = [] := List.getLast?_eq_none_iff.mp hl
    simp only [hnil, true_iff]
    exact Text.closed_nil
  | some c =>
    obtain ⟨t, ht⟩ := List.getLast?_eq_some_iff.mp hl
    simp only [bne_eq_false_iff_eq]
    constructor
    · rintro rfl
      exact Or.inr ⟨t, ht⟩
    · rintro (h | ⟨u, h⟩)
      · rw [h] at ht
        exact absurd ht.symm (by simp)
      · rw [h] at ht
        exact (List.cons.inj (List.append_inj_right' ht rfl)).1.symm

/-! ## What a log says after something is added -/

/-- What is added to a closed log is read by itself, on top of what the log says. -/
theorem entries_append_of_closed {log : String} (h : Text.Closed log.toList) (more : String) :
    entries (log ++ more) = (Text.rows more).foldl readRow (entries log) := by
  rw [entries, Text.rows_append_of_closed h, List.foldl_append]
  rfl

/-- Closing the last row of a log does not change what it says. -/
theorem entries_append_newline (log : String) : entries (log ++ "\n") = entries log := by
  obtain ⟨done, last, h₁, h₂⟩ := Text.rows_append_newline log
  rw [entries, entries, h₁, h₂, List.foldl_append, List.foldl_append]
  cases last with
  | nil =>
    have hdrop : Text.dropReturn [] = [] := rfl
    simp only [hdrop, List.isEmpty_nil, if_true, List.foldl_nil, List.foldl_cons]
    exact readRow_of_record?_eq_none record?_empty _
  | cons c r =>
    simp only [List.isEmpty_cons, Bool.false_eq_true, if_false, List.foldl_nil, List.foldl_cons]
    rw [readRow, readRow, record?_dropReturn]

/-- Adding a record to a closed log inserts it. -/
theorem entries_append_line {log : String} (h : Text.Closed log.toList) (sig : String)
    (v : Verdict) : entries (log ++ line sig v) = (entries log).insert sig v := by
  rw [entries_append_of_closed h, rows_line, List.foldl_cons, List.foldl_nil, readRow_compact]

/-- What is written for a record: the last row is closed first if it has to be. -/
def addition (torn : Bool) (sig : String) (v : Verdict) : String :=
  (if torn then "\n" else "") ++ line sig v

/-- Adding a record to any log inserts it. -/
theorem entries_append_addition (log : String) (sig : String) (v : Verdict) :
    entries (log ++ addition (isTorn log) sig v) = (entries log).insert sig v := by
  rw [addition]
  cases ht : isTorn log with
  | false =>
    have hc := (isTorn_eq_false_iff log).mp ht
    simp only [Bool.false_eq_true, if_false, String.empty_append]
    exact entries_append_line hc sig v
  | true =>
    have hc : Text.Closed (log ++ "\n").toList := by
      rw [String.toList_append]
      exact Text.closed_append_newline _
    simp only [if_true]
    rw [← String.append_assoc, entries_append_line hc, entries_append_newline]

theorem isTorn_append_addition (log : String) (torn : Bool) (sig : String) (v : Verdict) :
    isTorn (log ++ addition torn sig v) = false := by
  rw [isTorn_eq_false_iff, addition, line, ← String.append_assoc, ← String.append_assoc,
    String.toList_append]
  exact Text.closed_append_newline _

/-- Reading a log that was written anew inserts its entries in turn. -/
theorem foldl_readRow_text (fs es : Entries) :
    (Text.rows (text fs)).foldl readRow es = fs.foldl (fun m e => m.insert e.1 e.2) es := by
  induction fs generalizing es with
  | nil => rfl
  | cons e fs ih =>
    rw [text, Text.rows_append_of_closed (closed_line e.1 e.2), rows_line, List.singleton_append,
      List.foldl_cons, readRow_compact, List.foldl_cons, ih]

/-- The log that was written anew says what was to be written. -/
theorem entries_text {es : Entries} (h : es.Sorted) : entries (text es) = es := by
  rw [entries, foldl_readRow_text]
  exact Entries.foldl_insert_of_sorted es [] h

theorem isTorn_text (es : Entries) : isTorn (text es) = false :=
  (isTorn_eq_false_iff _).mpr (closed_text es)

end Log

end SinkAudit

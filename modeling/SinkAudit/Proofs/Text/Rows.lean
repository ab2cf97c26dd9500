import SinkAudit.Text.Rows

/-!
# Rows of a text that grows

A log is only ever added to at its end.  What that does to the rows depends on whether the text ends
with a line feed: if it does, the new text brings its own rows (`rows_append_of_closed`); if not, the
last row goes on.  Closing the last row leaves it as it is, up to a carriage return at its end
(`rows_append_newline`).

* `Closed`: the text is empty or ends with a line feed.
* `rows_append_of_closed`, `rows_row`, `rows_append_newline`.
-/

namespace SinkAudit.Text

/-- The text stops at the end of a row. -/
def Closed (s : List Char) : Prop := s = [] ∨ ∃ t, s = t ++ ['\n']

theorem closed_nil : Closed [] := Or.inl rfl

theorem closed_append_newline (t : List Char) : Closed (t ++ ['\n']) := Or.inr ⟨t, rfl⟩

theorem closed_append {s t : List Char} (hs : Closed s) (ht : Closed t) : Closed (s ++ t) := by
  rcases ht with rfl | ⟨u, rfl⟩
  · rwa [List.append_nil]
  · rw [← List.append_assoc]
    exact closed_append_newline (s ++ u)

@[simp] theorem rowsFrom_newline (sofar r : List Char) :
    rowsFrom sofar ('\n' :: r) = dropReturn sofar.reverse :: rowsFrom [] r := by
  simp [rowsFrom]

theorem rowsFrom_cons {c : Char} (h : c ≠ '\n') (sofar r : List Char) :
    rowsFrom sofar (c :: r) = rowsFrom (c :: sofar) r := by
  simp [rowsFrom, h]

/-- A line feed ends all rows before it. -/
theorem rowsFrom_append_newline (sofar s t : List Char) :
    rowsFrom sofar (s ++ '\n' :: t) = rowsFrom sofar (s ++ ['\n']) ++ rowsFrom [] t := by
  induction s generalizing sofar with
  | nil => simp only [List.nil_append, rowsFrom_newline, List.cons_append]; rfl
  | cons c s ih =>
    simp only [List.cons_append]
    by_cases hc : c = '\n'
    · rw [hc, rowsFrom_newline, rowsFrom_newline, ih, List.cons_append]
    · rw [rowsFrom_cons hc, rowsFrom_cons hc, ih]

/-- Characters without a line feed go on with the current row. -/
theorem rowsFrom_append_of_notMem (sofar s t : List Char) (h : '\n' ∉ s) :
    rowsFrom sofar (s ++ t) = rowsFrom (s.reverse ++ sofar) t := by
  induction s generalizing sofar with
  | nil => rfl
  | cons c s ih =>
    have hc : c ≠ '\n' := fun he => h (he ▸ List.mem_cons_self)
    rw [List.cons_append, rowsFrom_cons hc, ih _ fun hm => h (List.mem_cons_of_mem _ hm),
      List.reverse_cons, List.append_assoc, List.singleton_append]

/-- Closing the last row keeps every row before it. -/
theorem exists_rowsFrom_snoc_newline (sofar s : List Char) :
    ∃ done last, rowsFrom sofar s = done ++ (if last.isEmpty then [] else [last]) ∧
      rowsFrom sofar (s ++ ['\n']) = done ++ [dropReturn last] := by
  induction s generalizing sofar with
  | nil =>
    refine ⟨[], sofar.reverse, ?_, ?_⟩
    · simp [rowsFrom]
    · simp [rowsFrom]
  | cons c s ih =>
    by_cases hc : c = '\n'
    · obtain ⟨done, last, h₁, h₂⟩ := ih []
      refine ⟨dropReturn sofar.reverse :: done, last, ?_, ?_⟩
      · rw [hc, rowsFrom_newline, h₁, List.cons_append]
      · rw [hc, List.cons_append, rowsFrom_newline, h₂, List.cons_append]
    · obtain ⟨done, last, h₁, h₂⟩ := ih (c :: sofar)
      refine ⟨done, last, ?_, ?_⟩
      · rw [rowsFrom_cons hc, h₁]
      · rw [List.cons_append, rowsFrom_cons hc, h₂]

/-! ## Rows of texts -/

/-- What is added to a closed text brings its own rows. -/
theorem rows_append_of_closed {s : String} (h : Closed s.toList) (t : String) :
    rows (s ++ t) = rows s ++ rows t := by
  rw [rows, rows, rows, String.toList_append, ← List.map_append]
  rcases h with h | ⟨u, h⟩
  · rw [h]
    rfl
  · rw [h, List.append_assoc, List.singleton_append, rowsFrom_append_newline]

/-- A row without a line feed or a carriage return at its end, closed. -/
theorem rows_row {row : String} (hn : '\n' ∉ row.toList) (hr : row.toList.getLast? ≠ some '\r') :
    rows (row ++ "\n") = [row] := by
  have hdrop : dropReturn row.toList = row.toList := by
    unfold dropReturn
    split
    · rename_i r he
      rw [List.getLast?_eq_head?_reverse, he] at hr
      exact absurd rfl hr
    · rfl
  have hnl : ("\n" : String).toList = ['\n'] := rfl
  rw [rows, String.toList_append, hnl, rowsFrom_append_of_notMem _ _ _ hn, rowsFrom_newline,
    List.append_nil, List.reverse_reverse, hdrop]
  simp [rowsFrom]

/-- Closing the last row changes at most the carriage return at its end. -/
theorem rows_append_newline (s : String) :
    ∃ done last, rows s = done ++ (if last.isEmpty then [] else [String.ofList last]) ∧
      rows (s ++ "\n") = done ++ [String.ofList (dropReturn last)] := by
  obtain ⟨done, last, h₁, h₂⟩ := exists_rowsFrom_snoc_newline [] s.toList
  have hnl : ("\n" : String).toList = ['\n'] := rfl
  refine ⟨done.map String.ofList, last, ?_, ?_⟩
  · rw [rows, h₁, List.map_append]
    split <;> rfl
  · rw [rows, String.toList_append, hnl, h₂, List.map_append]
    rfl

/-- A row, with or without the carriage return that ends it. -/
theorem dropReturn_cases (row : List Char) :
    dropReturn row = row ∨ row = dropReturn row ++ ['\r'] := by
  unfold dropReturn
  split
  · rename_i r he
    refine Or.inr ?_
    rw [← List.reverse_cons, ← he, List.reverse_reverse]
  · exact Or.inl rfl

end SinkAudit.Text

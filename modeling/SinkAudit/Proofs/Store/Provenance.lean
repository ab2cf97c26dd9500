import SinkAudit.Proofs.Store.Durability

/-!
# Where the entries of a store come from

A store gets entries when it is opened, from its log, and when they are put.  Nothing else that it does
adds any, to memory or to the log: also where the log is no text, where it stops in the middle of a row,
or where it cannot be opened.

* `Shut`: a path at which no log can be opened, however often it is tried.
* `Sourced`: everything in memory, and everything that the log says, has a source.  The source is any
  relation between signatures and verdicts.
* `sourced_openAt`, `Sourced.put`, `Sourced.put_blocked`, `Sourced.flush`, `Sourced.reopen`: opening a
  store gives this if what is loaded has a source, and every step keeps it if what is put has one.
-/

namespace SinkAudit

theorem Entries.mem_foldl_insert {e : String × Verdict} :
    ∀ (fs es : Entries), e ∈ fs.foldl (fun m e => m.insert e.1 e.2) es → e ∈ es ∨ e ∈ fs
  | [], es, h => Or.inl h
  | f :: fs, es, h => by
    rcases mem_foldl_insert fs (es.insert f.1 f.2) h with h | h
    · rcases mem_insert h with rfl | h
      · exact Or.inr List.mem_cons_self
      · exact Or.inl h
    · exact Or.inr (List.mem_cons_of_mem _ h)

/-- What a log that was written anew says was to be written. -/
theorem Log.mem_of_mem_entries_text {es : Entries} {e : String × Verdict}
    (h : e ∈ entries (text es)) : e ∈ es := by
  rw [entries, foldl_readRow_text] at h
  rcases Entries.mem_foldl_insert es [] h with h | h
  · exact absurd h (by simp)
  · exact h

namespace Store

/-! ## Logs that cannot be opened -/

/-- The workspace after it has been tried to open the log for a number of times. -/
def afterTries (path : String) : Nat → Workspace → Workspace
  | 0, w => w
  | n + 1, w => afterTries path n (openLog w path).2

/-- A path at which no log can be opened, to be read or to be appended to, however often it is
tried. -/
def Shut (w : Workspace) (path : String) : Prop :=
  ∀ n, (∃ e, (openLog (afterTries path n w) path).1 = .error e) ∧
    ∃ e, (afterTries path n w).read path = .error e

section Closed

variable {path : String} {s : Store} {w : Workspace}

/-- A path at which trying to open a log fails and changes nothing. -/
theorem shut_of_openLog {e : Error} {e' : FileFault} (hopen : openLog w path = (.error e, w))
    (hread : w.read path = .error e') : Shut w path := by
  have hsame : ∀ n, afterTries path n w = w := by
    intro n
    induction n with
    | zero => rfl
    | succ n ih => rw [afterTries, hopen, ih]
  intro n
  rw [hsame n, hopen]
  exact ⟨⟨e, rfl⟩, e', hread⟩

theorem Shut.openLog (h : Shut w path) : Shut (openLog w path).2 path := fun n => h (n + 1)

theorem Shut.openAt_eq (h : Shut w path) : openAt w path = fresh path := by
  obtain ⟨-, e, he⟩ := h 0
  exact (openAt_of_read_error he).trans (ofBytes_empty path)

/-- A verdict whose record cannot be appended is kept in memory, and nothing else changes. -/
theorem put_of_writer_error {e : Error} {w' : Workspace} (hpath : s.path = some path)
    (hwriter : s.writer w path = (.error e, w')) (sig : String) (v : Verdict) :
    s.put w sig v = (.error e, { s with entries := s.entries.insert sig v }, w') := by
  obtain ⟨p, es, handle, torn, n⟩ := s
  obtain rfl : p = some path := hpath
  have hwriter' : (⟨some path, es.insert sig v, handle, torn, n⟩ : Store).writer w path =
      (.error e, w') := hwriter
  rw [put]
  dsimp only
  rw [hwriter']

theorem store_of_put_error {sig : String} {v : Verdict} {e : Error}
    (h : (s.put w sig v).1 = .error e) :
    (s.put w sig v).2.1 = { s with entries := s.entries.insert sig v } := by
  cases hpath : s.path with
  | none =>
    rw [put, hpath] at h
    exact absurd h (by simp)
  | some p =>
    rcases hwriter : s.writer w p with ⟨_ | i, w'⟩
    · rw [put_of_writer_error hpath hwriter, ← hpath]
    · rw [put_of_writer hpath hwriter] at h
      exact absurd h (by simp)

/-- A log that cannot be written anew leaves the store as it is. -/
theorem store_of_flush_error {e : Error} (h : (s.flush w).1 = .error e) : (s.flush w).2.1 = s := by
  rw [flush] at h ⊢
  split
  case isFalse => rfl
  case isTrue happended =>
    rw [if_pos happended] at h
    rcases hcompact : s.compact w with ⟨r, s', w'⟩
    rw [hcompact] at h
    obtain rfl : r = .error e := h
    cases hpath : s.path with
    | none =>
      rw [compact, hpath] at hcompact
      cases hcompact
    | some p => exact (compact_eq_error hpath hcompact).1

end Closed

/-! ## Sources -/

/-- Everything that a store has in memory and everything that its log says has a source. -/
structure Sourced (path : String) (source : String → Verdict → Prop) (s : Store) (w : Workspace) :
    Prop where
  memory : ∀ e ∈ s.entries, source e.1 e.2
  log : (∃ k bytes, Held path k bytes s w ∧ s.torn = (ofBytes path bytes).torn ∧
      ∀ e ∈ (ofBytes path bytes).entries, source e.1 e.2) ∨
    Shut w path ∧ s.path = some path ∧ s.handle = none ∧ s.appended = 0

section Steps

variable {path : String} {source : String → Verdict → Prop} {s : Store} {w : Workspace}

/-- What a log says after a record has been added to it: the record, and what it said before.  A log
that is no text says nothing before and after. -/
theorem ofBytes_append_addition (path : String) (bytes : ByteArray) (sig : String) (v : Verdict) :
    (ofBytes path (bytes ++ (Log.addition (ofBytes path bytes).torn sig v).toUTF8)).torn = false ∧
      ∀ e ∈ (ofBytes path (bytes ++ (Log.addition (ofBytes path bytes).torn sig v).toUTF8)).entries,
        e = (sig, v) ∨ e ∈ (ofBytes path bytes).entries := by
  cases hbytes : String.fromUTF8? bytes with
  | none =>
    -- Bytes that are no text do not become one by what is added to them.
    have hnone : String.fromUTF8?
        (bytes ++ (Log.addition (ofBytes path bytes).torn sig v).toUTF8) = none := by
      rw [Text.fromUTF8?_append, hbytes, Option.map_none]
    have hopen : ∀ bs, String.fromUTF8? bs = none → ofBytes path bs = fresh path := by
      intro bs hbs
      rw [ofBytes, hbs]
      rfl
    rw [hopen _ hnone]
    exact ⟨rfl, fun e he => absurd he (by simp [fresh])⟩
  | some text =>
    obtain rfl := Text.eq_toUTF8_of_fromUTF8? hbytes
    rw [ofBytes_toUTF8]
    dsimp only
    rw [← Text.toUTF8_append, ofBytes_toUTF8]
    refine ⟨Log.isTorn_append_addition _ _ _ _, fun e he => ?_⟩
    rw [Log.entries_append_addition] at he
    exact Entries.mem_insert he

theorem Sourced.openAt_entries (h : Sourced path source s w) :
    ∀ e ∈ (openAt w path).entries, source e.1 e.2 := by
  rcases h.log with ⟨k, bytes, hheld, -, hlog⟩ | ⟨hshut, -⟩
  · rw [hheld.openAt_eq]
    exact hlog
  · rw [hshut.openAt_eq]
    exact fun e he => absurd he (by simp [fresh])

/-- A store that is opened has in memory what its log says. -/
theorem sourced_openAt (h : LogPlace w path ∨ Shut w path)
    (hload : ∀ e ∈ (openAt w path).entries, source e.1 e.2) :
    Sourced path source (openAt w path) w := by
  refine ⟨hload, ?_⟩
  rcases h with hplace | hshut
  · obtain ⟨k, hk⟩ := hplace.named
    obtain ⟨bytes, hheld, -⟩ := hplace.exists_held hk
    have hopen := hheld.openAt_eq
    refine Or.inl ⟨k, bytes, hheld, by rw [hopen], ?_⟩
    rw [← hopen]
    exact hload
  · refine Or.inr ⟨hshut, ?_⟩
    rw [hshut.openAt_eq]
    exact ⟨rfl, rfl, rfl⟩

theorem Sourced.reopen (h : Sourced path source s w) : Sourced path source (openAt w path) w := by
  refine ⟨h.openAt_entries, ?_⟩
  rcases h.log with ⟨k, bytes, hheld, -, hlog⟩ | ⟨hshut, -⟩
  · exact Or.inl ⟨k, bytes, hheld.reopen, by rw [hheld.openAt_eq], hlog⟩
  · rw [hshut.openAt_eq]
    exact Or.inr ⟨hshut, rfl, rfl, rfl⟩

theorem source_insert (h : ∀ e ∈ s.entries, source e.1 e.2) {sig : String} {v : Verdict}
    (hv : source sig v) : ∀ e ∈ s.entries.insert sig v, source e.1 e.2 := by
  intro e he
  rcases Entries.mem_insert he with rfl | he
  · exact hv
  · exact h e he

/-- A verdict that has a source is put, in memory and in the log, or in memory only. -/
theorem Sourced.put (h : Sourced path source s w) {sig : String} {v : Verdict}
    (hv : source sig v) :
    Sourced path source (s.put w sig v).2.1 (s.put w sig v).2.2 := by
  have hmemory := source_insert h.memory hv
  rcases h.log with ⟨k, bytes, hheld, htorn, hlog⟩ | ⟨hshut, hpath, hhandle, happended⟩
  · obtain ⟨d, i, w', hput, hattached⟩ := hheld.put sig v
    obtain ⟨htorn', hadded⟩ := ofBytes_append_addition path bytes sig v
    rw [htorn] at hattached
    rw [hput]
    refine ⟨hmemory, Or.inl ⟨k, _, .attached hattached, htorn'.symm, fun e he => ?_⟩⟩
    rcases hadded e he with rfl | he
    · exact hv
    · exact hlog e he
  · -- This try to open the log fails, and so do all that follow.
    obtain ⟨⟨e, he⟩, -⟩ := hshut 0
    have hwriter : s.writer w path = (.error e, (openLog w path).2) := by
      rw [writer, hhandle]
      exact Prod.ext he rfl
    rw [put_of_writer_error hpath hwriter]
    exact ⟨hmemory, Or.inr ⟨hshut.openLog, hpath, hhandle, happended⟩⟩

/-- A verdict is kept in memory while the log cannot be opened. -/
theorem Sourced.put_blocked (h : Sourced path source s w) {sig : String} {v : Verdict}
    (hv : source sig v) {w' : Workspace} {e : Error} (hblocked : (s.put w' sig v).1 = .error e) :
    Sourced path source (s.put w' sig v).2.1 w := by
  rw [store_of_put_error hblocked]
  refine ⟨source_insert h.memory hv, h.log.imp ?_ id⟩
  rintro ⟨k, bytes, hheld, htorn, hlog⟩
  exact ⟨k, bytes, hheld.of_eq rfl rfl, htorn, hlog⟩

theorem Sourced.flush (h : Sourced path source s w) :
    Sourced path source (s.flush w).2.1 (s.flush w).2.2 := by
  rcases h.log with ⟨k, bytes, hheld, htorn, hlog⟩ | ⟨hshut, hpath, hhandle, happended⟩
  · rcases hheld.flush with ⟨d, w', hflush, hattached⟩ | ⟨r, hflush⟩
    · rw [hflush]
      refine ⟨h.memory, Or.inl ⟨k, _, .attached hattached, ?_, ?_⟩⟩
      · rw [ofBytes_toUTF8]
        exact (Log.isTorn_text s.entries).symm
      · rw [ofBytes_toUTF8]
        exact fun e he => h.memory e (Log.mem_of_mem_entries_text he)
    · rw [hflush]
      exact h
  · rw [Store.flush, happended]
    exact h

end Steps

end Store

end SinkAudit

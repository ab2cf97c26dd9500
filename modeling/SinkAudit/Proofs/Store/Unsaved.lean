import SinkAudit.Proofs.Store.Appending
import SinkAudit.Proofs.Store.Provenance

/-!
# What a flush leaves unsaved

A `put` that cannot reach the log fails, and the verdict is in memory only.  Later the log may be within reach
again.  Writing the log anew then saves all that is in memory.  But `flush` writes the log anew only if a
record has been appended since the last time, and a verdict that could not be appended does not count.  So
whether `flush` saves such a verdict depends on whether another one has been put since then with success; the
`flush` itself succeeds in both cases.

What a store has done is told by a history with two notes in it: what the log said when it was last opened or
written anew, and the puts since then that failed.  Between the steps the workspace may change: things may
appear in the way of the log and vanish again, and as soon as a record has been appended, anything may happen.

* `Untouched`: the log says what it said, or something is in its way.
* `History`: a store that is used, with the two notes; `History.flush`: a flush is one of its steps or none.
* `Accounted`: what the notes tell of a store with nothing appended; `Accounted.refused`,
  `Accounted.rewritten`, `Accounted.unwritten`: each step keeps this.
* `flush_saves`: what is in the log after a flush that succeeds.
-/

namespace SinkAudit

open Workspace

namespace Store

/-- The log at a path says what it said, or nothing can be read there. -/
def Untouched (path : String) (saved : Entries) (w : Workspace) : Prop :=
  (openAt w path).entries = saved ∨ ∃ fault, w.read path = .error fault

/-- A store that has been opened and used.  The notes are what the log said when it was last opened or written
anew, and the puts that have failed since then. -/
inductive History (path : String) :
    Entries → List (String × Verdict) → Store → Workspace → Prop
  | opened (w : Workspace) : History path (openAt w path).entries [] (openAt w path) w
  | kept {saved : Entries} {failed : List (String × Verdict)} {s s' : Store} {w w' : Workspace}
    {sig : String} {v : Verdict} (h : History path saved failed s w)
    (hput : s.put w sig v = (.ok (), s', w')) : History path saved failed s' w'
  | refused {saved : Entries} {failed : List (String × Verdict)} {s s' : Store} {w w' : Workspace}
    {sig : String} {v : Verdict} {e : Error} (h : History path saved failed s w)
    (hput : s.put w sig v = (.error e, s', w')) : History path saved (failed ++ [(sig, v)]) s' w'
  | rewritten {saved : Entries} {failed : List (String × Verdict)} {s s' : Store} {w w' : Workspace}
    (h : History path saved failed s w) (hw : Plain path w)
    (hcompact : s.compact w = (.ok (), s', w')) : History path s.entries [] s' w'
  | unwritten {saved : Entries} {failed : List (String × Verdict)} {s s' : Store} {w w' : Workspace}
    {e : Error} (h : History path saved failed s w) (hw : Plain path w)
    (hcompact : s.compact w = (.error e, s', w')) : History path saved failed s' w'
  | changed {saved : Entries} {failed : List (String × Verdict)} {s : Store} {w w' : Workspace}
    (h : History path saved failed s w) (hw' : s.appended = 0 → Untouched path saved w') :
    History path saved failed s w'

/-- What the notes tell of a store: as long as nothing has been appended, memory is what the log said with the
failed puts over it. -/
structure Accounted (path : String) (saved : Entries) (failed : List (String × Verdict)) (s : Store)
    (w : Workspace) : Prop where
  path_eq : s.path = some path
  sorted : s.entries.Sorted
  closed : s.appended = 0 → s.handle = none
  memory : s.appended = 0 → s.entries = failed.foldl (fun m e => m.insert e.1 e.2) saved
  log : s.appended = 0 → Untouched path saved w

/-! ## Steps -/

section Steps

variable {path : String} {saved : Entries} {failed : List (String × Verdict)} {s s' : Store}
  {w w' : Workspace}

theorem accounted_openAt (w : Workspace) (path : String) :
    Accounted path (openAt w path).entries [] (openAt w path) w := by
  have hofBytes : ∃ bytes, openAt w path = ofBytes path bytes := by
    cases hread : w.read path with
    | error fault => exact ⟨_, openAt_of_read_error hread⟩
    | ok bytes => exact ⟨bytes, openAt_of_read hread⟩
  obtain ⟨bytes, hbytes⟩ := hofBytes
  refine ⟨?_, (Reached.openAt w path).sorted, fun _ => ?_, fun _ => rfl, fun _ => Or.inl rfl⟩
  · rw [hbytes, ofBytes_path]
  · rw [hbytes, ofBytes_handle]

/-- A put that succeeds counts, so that the notes tell nothing until the log is written anew. -/
theorem Accounted.kept {sig : String} {v : Verdict} (h : Accounted path saved failed s w)
    (hput : s.put w sig v = (.ok (), s', w')) : Accounted path saved failed s' w' := by
  rcases hwriter : s.writer w path with ⟨e | i, w₁⟩
  · rw [put_of_writer_error h.path_eq hwriter] at hput
    cases hput
  · rw [put_of_writer h.path_eq hwriter] at hput
    cases hput
    exact ⟨rfl, Entries.sorted_insert sig v h.sorted, fun hzero => absurd hzero (Nat.succ_ne_zero _),
      fun hzero => absurd hzero (Nat.succ_ne_zero _), fun hzero => absurd hzero (Nat.succ_ne_zero _)⟩

/-- A put that fails changes memory and is noted.  It has found the log out of reach. -/
theorem Accounted.refused {sig : String} {v : Verdict} {e : Error}
    (h : Accounted path saved failed s w) (hput : s.put w sig v = (.error e, s', w')) :
    Accounted path saved (failed ++ [(sig, v)]) s' w' := by
  rcases hwriter : s.writer w path with ⟨e' | i, w₁⟩
  · rw [put_of_writer_error h.path_eq hwriter] at hput
    cases hput
    refine ⟨h.path_eq, Entries.sorted_insert sig v h.sorted, h.closed, fun hzero => ?_, fun hzero => ?_⟩
    · rw [List.foldl_append, ← h.memory hzero]
      rfl
    · rw [writer, h.closed hzero] at hwriter
      exact Or.inr (exists_read_error_of_openLog hwriter)
  · rw [put_of_writer h.path_eq hwriter] at hput
    cases hput

/-- Writing the log anew saves all that is in memory. -/
theorem Accounted.rewritten (h : Accounted path saved failed s w) (hw : Plain path w)
    (hcompact : s.compact w = (.ok (), s', w')) : Accounted path s.entries [] s' w' := by
  have hlog := hw.openAt_compact h.path_eq h.sorted hcompact
  obtain ⟨w₁, -, -, rfl⟩ := compact_eq_ok h.path_eq hcompact
  exact ⟨h.path_eq, h.sorted, fun _ => rfl, fun _ => rfl, fun _ => Or.inl hlog⟩

theorem Untouched.of_look (h : Untouched path saved w) (hw : w.WellFormed) (hw' : w'.WellFormed)
    (hlook : w'.look path = w.look path) : Untouched path saved w' := by
  cases hread' : w'.read path with
  | error fault => exact Or.inr ⟨fault, hread'⟩
  | ok bytes =>
    have hread : w.read path = .ok bytes := by
      rw [read_eq_ok_iff hw, ← hlook, ← read_eq_ok_iff hw', hread']
    rcases h with hlog | ⟨fault, hfault⟩
    · refine Or.inl ?_
      rw [openAt_of_read hread', ← openAt_of_read hread, hlog]
    · rw [hread] at hfault
      cases hfault

/-- Where writing the log anew fails, the log is as it was. -/
theorem Accounted.unwritten {e : Error} (h : Accounted path saved failed s w) (hw : Plain path w)
    (hcompact : s.compact w = (.error e, s', w')) : Accounted path saved failed s' w' := by
  obtain ⟨rfl, rfl | ⟨kept, fault, hcut, -⟩ | ⟨hwrite, fault, hrename⟩⟩ :=
    compact_eq_error h.path_eq hcompact
  · exact h
  · cases hcut
  · obtain ⟨d, -, -, -, hputs, -⟩ :=
      (named_tempPath_of_write hwrite).puts_of_write hw.wellFormed hw.temp hwrite
    have hlook := look_of_rename_error hw.wellFormed hw.temp hwrite hrename
    exact ⟨h.path_eq, h.sorted, h.closed, h.memory, fun hzero =>
      (h.log hzero).of_look hw.wellFormed hputs.wellFormed hlook⟩

/-- What a change of the workspace has to leave, and only as long as nothing has been appended. -/
theorem Accounted.changed (h : Accounted path saved failed s w)
    (hw' : s.appended = 0 → Untouched path saved w') : Accounted path saved failed s w' :=
  ⟨h.path_eq, h.sorted, h.closed, h.memory, hw'⟩

/-! ## Histories -/

theorem History.accounted (h : History path saved failed s w) : Accounted path saved failed s w := by
  induction h with
  | opened w => exact accounted_openAt w path
  | kept _ hput ih => exact ih.kept hput
  | refused _ hput ih => exact ih.refused hput
  | rewritten _ hw hcompact ih => exact ih.rewritten hw hcompact
  | unwritten _ hw hcompact ih => exact ih.unwritten hw hcompact
  | changed _ hw' ih => exact ih.changed hw'

/-- A flush writes the log anew or does nothing; so a history goes on after it. -/
theorem History.flush (h : History path saved failed s w) (hw : Plain path w) :
    ∃ saved' failed', History path saved' failed' (s.flush w).2.1 (s.flush w).2.2 := by
  by_cases happended : 0 < s.appended
  · have hflush : s.flush w = s.compact w := if_pos happended
    rw [hflush]
    rcases hcompact : s.compact w with ⟨e | u, s', w'⟩
    · exact ⟨_, _, h.unwritten hw hcompact⟩
    · exact ⟨_, _, h.rewritten hw hcompact⟩
  · have hflush : s.flush w = (.ok (), s, w) := if_neg happended
    rw [hflush]
    exact ⟨_, _, h⟩

end Steps

/-- **Flushing.**  After any history, a flush that succeeds leaves memory as it is.  If a record has been
appended since the log was opened or written anew, then the log says afterwards what is in memory, whatever has
failed and whatever has become of the log in the meantime.  If none has, then nothing is done at all: the log
says what it said, unless something is in its way, and for each signature memory has the last verdict whose put
has failed, or what the log said.  So the log says what is in memory if no put has failed. -/
theorem flush_saves {path : String} {saved : Entries} {failed : List (String × Verdict)} {s s' : Store}
    {w w' : Workspace} (h : History path saved failed s w) (hw : Plain path w)
    (hflush : s.flush w = (.ok (), s', w')) :
    s'.entries = s.entries ∧
      (0 < s.appended → (openAt w' path).entries = s'.entries) ∧
      (s.appended = 0 → s' = s ∧ w' = w ∧ Untouched path saved w' ∧
        ∀ sig, s'.get? sig = (failed.reverse.lookup sig).or (saved.get? sig)) ∧
      (failed = [] → Untouched path s'.entries w') := by
  have haccounted := h.accounted
  have hentries : s'.entries = s.entries := by
    have hmemory : (s.flush w).2.1.entries = s.entries := entries_flush s w
    rw [hflush] at hmemory
    exact hmemory
  have hsaved : 0 < s.appended → (openAt w' path).entries = s'.entries := by
    intro happended
    rw [flush, if_pos happended] at hflush
    rw [hentries]
    exact hw.openAt_compact haccounted.path_eq haccounted.sorted hflush
  have hidle : s.appended = 0 → s' = s ∧ w' = w := by
    intro hzero
    rw [flush, if_neg (Nat.not_lt.mpr (Nat.le_of_eq hzero))] at hflush
    cases hflush
    exact ⟨rfl, rfl⟩
  refine ⟨hentries, hsaved, fun hzero => ?_, ?_⟩
  · obtain ⟨rfl, rfl⟩ := hidle hzero
    refine ⟨rfl, rfl, haccounted.log hzero, fun sig => ?_⟩
    rw [get?, haccounted.memory hzero, Entries.get?_foldl_insert]
  · rintro rfl
    rcases Nat.eq_zero_or_pos s.appended with hzero | happended
    · obtain ⟨rfl, rfl⟩ := hidle hzero
      rw [haccounted.memory hzero]
      exact haccounted.log hzero
    · exact Or.inl (hsaved happended)

/-! ## A put that fails -/

/-- A working directory with a directory in the way of the log. -/
def occupiedSite : Workspace := ⟨.dir [("ws", .dir [("log", .dir [])])], #[], ["ws"]⟩

/-- A store with a verdict that could not be appended, since there is a directory in the way. -/
def refusedStore : Store :=
  ((openAt occupiedSite "log").put occupiedSite "a" ⟨true, .high, "why", "fix"⟩).2.1

/-- The directory is gone, with nothing in its place. -/
theorem history_refusedStore :
    History "log" [] [("a", ⟨true, .high, "why", "fix"⟩)] refusedStore (Workspace.empty "ws") := by
  have hload : (openAt occupiedSite "log").entries = [] := by decide +kernel
  have hgone : (openAt (Workspace.empty "ws") "log").entries = [] := by decide +kernel
  have hfail : ((openAt occupiedSite "log").put occupiedSite "a" ⟨true, .high, "why", "fix"⟩).1.isOk =
      false := by decide +kernel
  have hopened : History "log" (openAt occupiedSite "log").entries [] _ _ := .opened occupiedSite
  rw [hload] at hopened
  rw [refusedStore]
  rcases hput : (openAt occupiedSite "log").put occupiedSite "a" ⟨true, .high, "why", "fix"⟩ with
    ⟨e | u, s, w⟩
  · exact (hopened.refused hput).changed fun _ => Or.inl hgone
  · rw [hput] at hfail
    cases hfail

/-- What another put leaves, which succeeds. -/
def reachedAgain : Store × Workspace :=
  (refusedStore.put (Workspace.empty "ws") "b" .analysisError).2

/-- Where a verdict has been put with success since then, a flush saves both. -/
theorem flush_saves_both :
    History "log" [] [("a", ⟨true, .high, "why", "fix"⟩)] reachedAgain.1 reachedAgain.2 ∧
      Plain "log" reachedAgain.2 ∧
      ∃ s w, reachedAgain.1.flush reachedAgain.2 = (.ok (), s, w) ∧
        (openAt w "log").get? "a" = some ⟨true, .high, "why", "fix"⟩ ∧
        (openAt w "log").get? "b" = some .analysisError := by
  have hput : refusedStore.put (Workspace.empty "ws") "b" .analysisError =
      (.ok (), reachedAgain.1, reachedAgain.2) :=
    Prod.ext (eq_ok_of_isOk (by decide +kernel)) rfl
  have hhistory := history_refusedStore.kept hput
  have hplain : Plain "log" reachedAgain.2 :=
    ⟨wellFormed_of_isWellFormed (by decide +kernel), by decide +kernel, by decide +kernel⟩
  have hflush : reachedAgain.1.flush reachedAgain.2 =
      (.ok (), (reachedAgain.1.flush reachedAgain.2).2) :=
    Prod.ext (eq_ok_of_isOk (by decide +kernel)) rfl
  have ha : reachedAgain.1.get? "a" = some ⟨true, .high, "why", "fix"⟩ := by decide +kernel
  have hb : reachedAgain.1.get? "b" = some .analysisError := by decide +kernel
  obtain ⟨hentries, hsaved, -⟩ := flush_saves hhistory hplain hflush
  have hlog := (hsaved (by decide +kernel)).trans hentries
  refine ⟨hhistory, hplain, _, _, hflush, ?_, ?_⟩
  · rw [get?, hlog]
    exact ha
  · rw [get?, hlog]
    exact hb

/-- Where none has, a flush succeeds and the verdict is not in the log, though the log could be written: writing
it anew saves the verdict. -/
theorem flush_leaves_unsaved :
    History "log" [] [("a", ⟨true, .high, "why", "fix"⟩)] refusedStore (Workspace.empty "ws") ∧
      Plain "log" (Workspace.empty "ws") ∧
      (refusedStore.flush (Workspace.empty "ws")).1.isOk = true ∧
      (refusedStore.flush (Workspace.empty "ws")).2.1.get? "a" = some ⟨true, .high, "why", "fix"⟩ ∧
      (openAt (refusedStore.flush (Workspace.empty "ws")).2.2 "log").get? "a" = none ∧
      (openAt (refusedStore.compact (Workspace.empty "ws")).2.2 "log").get? "a" =
        some ⟨true, .high, "why", "fix"⟩ := by
  have hplain : Plain "log" (Workspace.empty "ws") :=
    ⟨wellFormed_of_isWellFormed (by decide +kernel), by decide +kernel, by decide +kernel⟩
  have hcompact : refusedStore.compact (Workspace.empty "ws") =
      (.ok (), (refusedStore.compact (Workspace.empty "ws")).2) :=
    Prod.ext (eq_ok_of_isOk (by decide +kernel)) rfl
  have hmemory : refusedStore.get? "a" = some ⟨true, .high, "why", "fix"⟩ := by decide +kernel
  have hlog := hplain.openAt_compact history_refusedStore.accounted.path_eq
    history_refusedStore.accounted.sorted hcompact
  refine ⟨history_refusedStore, hplain, by decide +kernel, by decide +kernel, by decide +kernel, ?_⟩
  rw [get?, hlog]
  exact hmemory

end Store
end SinkAudit

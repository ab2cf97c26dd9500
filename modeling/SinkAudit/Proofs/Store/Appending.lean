import SinkAudit.Proofs.Store.Compaction
import SinkAudit.Proofs.Workspace.Listing

/-!
# Appending to a log of any bytes

A `put` appends a record to the file that the path of the log leads to, whatever the bytes of that file are
and whatever links are on the way.  So it succeeds also if the bytes are no text.  But a log is loaded as one
text, or not at all: bytes that are no text do not become one by a record after them, and a store that is
opened at them is empty.  What has been put is then in memory only, until the log is written anew.

* `openLog_of_file`: a log that is there can be opened for appending, and this changes nothing;
  `exists_read_error_of_openLog`: a log that cannot be opened for appending cannot be read.
* `Log.additions`: what puts in turn append to a log.
* `Leads`: the file that the path of a store leads to, with its bytes; `Leads.put`, `Leads.putAll`: what
  puts leave in it.
* `puts_loaded_if_text`: what has been put is loaded again if the log was a text before, and not otherwise.
-/

namespace SinkAudit

open Workspace

/-! ## What is appended -/

namespace Log

/-- What is appended to a log when verdicts are put in turn. -/
def additions (torn : Bool) : List (String × Verdict) → String
  | [] => ""
  | (sig, v) :: l => addition torn sig v ++ text l

theorem additions_false : ∀ l : List (String × Verdict), additions false l = text l
  | [] => rfl
  | (sig, v) :: l => by
    rw [additions, text, addition, if_neg Bool.false_ne_true, String.empty_append]

theorem addition_append_additions (torn : Bool) (sig : String) (v : Verdict)
    (l : List (String × Verdict)) :
    addition torn sig v ++ additions false l = additions torn ((sig, v) :: l) := by
  rw [additions_false, additions]

/-- A log to which verdicts have been appended in turn says what it said, with each of them inserted. -/
theorem entries_append_additions (log : String) (l : List (String × Verdict)) :
    entries (log ++ additions (isTorn log) l) =
      l.foldl (fun m e => m.insert e.1 e.2) (entries log) := by
  cases l with
  | nil => rw [additions, String.append_empty, List.foldl_nil]
  | cons e l =>
    obtain ⟨sig, v⟩ := e
    have hclosed : Text.Closed (log ++ addition (isTorn log) sig v).toList :=
      (isTorn_eq_false_iff _).mp (isTorn_append_addition log _ sig v)
    rw [additions, ← String.append_assoc, entries_append_of_closed hclosed, entries_append_addition,
      foldl_readRow_text, List.foldl_cons]

end Log

namespace Store

/-! ## Opening a log for appending -/

section Opening

variable {w w' : Workspace} {path : String} {p : Place} {i : Nat}

/-- A log that is there can be opened for appending, and this changes nothing. -/
theorem openLog_of_file (h : w.resolve .enter path = .ok (.found p (.file i))) :
    openLog w path = (.ok i, w) := by
  obtain ⟨k, d, hd⟩ := standsIn_of_file h
  rw [openLog, hd.createDirs_eq (pathFault?_parent hd.fault)]
  dsimp only
  rw [openFile, resolve_create_of_enter h]

/-- A log that cannot be opened for appending cannot be read, whatever directories have been made for it. -/
theorem exists_read_error_of_openLog {e : Error} (h : openLog w path = (.error e, w')) :
    ∃ fault, w'.read path = .error fault := by
  cases hread : w'.read path with
  | error fault => exact ⟨fault, rfl⟩
  | ok bytes =>
    exfalso
    obtain ⟨p, i, hfile, -⟩ := file_of_read hread
    rw [openLog] at h
    split at h
    case h_1 fault w₁ hdirs =>
      -- The directories above could not be made; but the log stands in them.
      cases h
      obtain ⟨k, d, hd⟩ := standsIn_of_file hfile
      obtain ⟨hne, hdir⟩ := createDirs_error hdirs
      rcases pathFault?_parent hd.fault with hempty | hfault
      · exact hne hempty
      · rw [isDir_iff.mpr ⟨hfault, d, (hd.toNamed.dirAt_iff d).mpr hd.dir⟩] at hdir
        cases hdir
    case h_2 w₁ _ =>
      split at h
      · cases h
        rename_i fault hopen
        rw [openFile, resolve_create_of_enter hfile] at hopen
        cases hopen
      · cases h

end Opening

/-! ## The file that a path leads to -/

/-- The path of a store leads to a file with the given bytes, and that file is what the store has open, if it
has anything open. -/
structure Leads (path : String) (i : Nat) (bytes : ByteArray) (s : Store) (w : Workspace) : Prop where
  path_eq : s.path = some path
  file : ∃ p, w.resolve .enter path = .ok (.found p (.file i))
  bound : i < w.contents.size
  content : w.content i = bytes
  handle : ∀ j, s.handle = some j → j = i

section Steps

variable {path : String} {i : Nat} {bytes : ByteArray} {s : Store} {w : Workspace}

theorem exists_leads (hw : w.WellFormed) (h : w.read path = .ok bytes) :
    ∃ i, Leads path i bytes (openAt w path) w := by
  obtain ⟨p, i, hfile, hcontent⟩ := file_of_read h
  rw [openAt_of_read h]
  refine ⟨i, ofBytes_path path bytes, ⟨p, hfile⟩, hw.bound p i (sound_of_resolve hfile), hcontent, ?_⟩
  intro j hj
  rw [ofBytes_handle] at hj
  cases hj

theorem Leads.read_eq (h : Leads path i bytes s w) : w.read path = .ok bytes := by
  obtain ⟨p, hfile⟩ := h.file
  rw [read_of_file hfile, h.content]

theorem Leads.isEnabled (h : Leads path i bytes s w) : s.isEnabled = true := by
  rw [Store.isEnabled, h.path_eq]
  rfl

theorem Leads.writer_eq (h : Leads path i bytes s w) : s.writer w path = (.ok i, w) := by
  rw [writer]
  cases hhandle : s.handle with
  | none =>
    obtain ⟨p, hfile⟩ := h.file
    exact openLog_of_file hfile
  | some j => rw [h.handle j hhandle]

/-- A verdict that is put is appended to the file, whatever its bytes are. -/
theorem Leads.put (h : Leads path i bytes s w) (sig : String) (v : Verdict) :
    ∃ s' w', s.put w sig v = (.ok (), s', w') ∧ s'.torn = false ∧
      Leads path i (bytes ++ (Log.addition s.torn sig v).toUTF8) s' w' := by
  refine ⟨_, _, put_of_writer h.path_eq h.writer_eq sig v, rfl, rfl, ?_, ?_, ?_, ?_⟩
  · obtain ⟨p, hfile⟩ := h.file
    exact ⟨p, by rw [append, resolve_setContent, hfile]⟩
  · rw [append, setContent, Array.size_setIfInBounds]
    exact h.bound
  · rw [append, content_setContent_self h.bound, h.content]
  · intro j hj
    exact (Option.some.inj hj).symm

/-- Verdicts that are put in turn are appended to the file in turn. -/
theorem Leads.putAll :
    ∀ (l : List (String × Verdict)) {bytes : ByteArray} {s : Store} {w : Workspace},
      Leads path i bytes s w →
      Leads path i (bytes ++ (Log.additions s.torn l).toUTF8) (putAll l (s, w)).1 (putAll l (s, w)).2
  | [], bytes, s, w, h => by
    have hnone : bytes ++ (Log.additions s.torn []).toUTF8 = bytes := ByteArray.append_empty
    rw [hnone]
    exact h
  | (sig, v) :: l, bytes, s, w, h => by
    obtain ⟨s', w', hput, htorn, h'⟩ := h.put sig v
    have hrest := Leads.putAll l h'
    rw [htorn, ByteArray.append_assoc, ← Text.toUTF8_append, Log.addition_append_additions] at hrest
    rw [Store.putAll, hput]
    exact hrest

end Steps

theorem Reached.putAll {s : Store} (h : Reached s) :
    ∀ (l : List (String × Verdict)) (w : Workspace), Reached (putAll l (s, w)).1
  | [], _ => h
  | (sig, v) :: l, w => (h.put w sig v .done).putAll l _

/-! ## What is loaded again -/

/-- A log that is no text says nothing, before verdicts are appended to it and after. -/
theorem entries_ofBytes_of_no_text (path : String) {bytes : ByteArray}
    (h : String.fromUTF8? bytes = none) (more : String) :
    (ofBytes path (bytes ++ more.toUTF8)).entries = [] := by
  rw [ofBytes, Text.fromUTF8?_append, h, Option.map_none]

/-- A log that is a text says after verdicts have been appended to it what it said, with each of them
inserted. -/
theorem entries_ofBytes_of_text (path : String) {bytes : ByteArray}
    (h : String.fromUTF8? bytes ≠ none) (l : List (String × Verdict)) :
    (ofBytes path (bytes ++ (Log.additions (ofBytes path bytes).torn l).toUTF8)).entries =
      l.foldl (fun m e => m.insert e.1 e.2) (ofBytes path bytes).entries := by
  obtain ⟨text, htext⟩ := Option.ne_none_iff_exists'.mp h
  obtain rfl := Text.eq_toUTF8_of_fromUTF8? htext
  rw [ofBytes_toUTF8]
  dsimp only
  rw [← Text.toUTF8_append, ofBytes_toUTF8]
  exact Log.entries_append_additions text l

/-- **Puts over any bytes.**  Wherever a file can be read at the path, whatever its bytes are, every verdict
that is put is appended to it, and memory has for each signature the verdict put last.  If the bytes were a
text, then opening the log again gives what is in memory.  If they were none, it gives nothing, though every
put has succeeded; it gives what is in memory once the log has been written anew. -/
theorem puts_loaded_if_text {w w' : Workspace} (hw : w.WellFormed) {path : String} {bytes : ByteArray}
    (hread : w.read path = .ok bytes) {l : List (String × Verdict)} {s : Store}
    (hputs : putAll l (openAt w path, w) = (s, w')) :
    (∀ l₁ sig v l₂, l = l₁ ++ (sig, v) :: l₂ →
        ((putAll l₁ (openAt w path, w)).1.put (putAll l₁ (openAt w path, w)).2 sig v).1 = .ok ()) ∧
      (∀ sig, s.get? sig = (l.reverse.lookup sig).or ((openAt w path).get? sig)) ∧
      w'.read path = .ok (bytes ++ (Log.additions (openAt w path).torn l).toUTF8) ∧
      (String.fromUTF8? bytes ≠ none → (openAt w' path).entries = s.entries) ∧
      (String.fromUTF8? bytes = none → (openAt w' path).entries = []) ∧
      ∀ s' w'', Plain path w' → s.compact w' = (.ok (), s', w'') →
        (openAt w'' path).entries = s.entries := by
  obtain ⟨i, hleads⟩ := exists_leads hw hread
  have hafter := Leads.putAll l hleads
  have hentries := entries_putAll l w hleads.isEnabled
  have hreached := (Reached.openAt w path).putAll l w
  rw [hputs] at hafter hentries hreached
  have hopen := openAt_of_read hafter.read_eq
  refine ⟨?_, ?_, hafter.read_eq, ?_, ?_, ?_⟩
  · intro l₁ sig v l₂ _
    obtain ⟨s', w₁, hput, -⟩ := (Leads.putAll l₁ hleads).put sig v
    rw [hput]
  · intro sig
    rw [get?, hentries, Entries.get?_foldl_insert, get?]
  · intro htext
    rw [hopen, hentries, openAt_of_read hread]
    exact entries_ofBytes_of_text path htext l
  · intro hnone
    rw [hopen]
    exact entries_ofBytes_of_no_text path hnone _
  · intro s' w'' hplain hcompact
    exact hplain.openAt_compact hafter.path_eq hreached.sorted hcompact

/-- A working directory with a link to a file of one byte, which is no text. -/
def linkedSite : Workspace :=
  ⟨.dir [("ws", .dir [("data", .file 0), ("log", .link "data")])], #[⟨#[0xff]⟩], ["ws"]⟩

/-- What is left after two verdicts for one signature have been put, with one for another between them. -/
def linkedPuts : Store × Workspace :=
  putAll [("a", .analysisError), ("b", .analysisError), ("a", ⟨true, .high, "why", "fix"⟩)]
    (openAt linkedSite "log", linkedSite)

theorem eq_ok_of_isOk {r : Except Error Unit} (h : r.isOk = true) : r = .ok () := by
  cases r with
  | error e => cases h
  | ok u => rfl

/-- The verdicts are lost when the log is opened again, and saved when it has been written anew; this
replaces the link. -/
theorem puts_loaded_if_text_linked :
    linkedSite.WellFormed ∧
      (∃ bytes, linkedSite.read "log" = .ok bytes ∧ String.fromUTF8? bytes = none) ∧
      linkedPuts.1.get? "a" = some ⟨true, .high, "why", "fix"⟩ ∧
      (openAt linkedPuts.2 "log").entries = [] ∧ Plain "log" linkedPuts.2 ∧
      ∃ s w, linkedPuts.1.compact linkedPuts.2 = (.ok (), s, w) ∧
        (openAt w "log").get? "a" = some ⟨true, .high, "why", "fix"⟩ := by
  have hw : linkedSite.WellFormed := wellFormed_of_isWellFormed (by decide +kernel)
  obtain ⟨bytes, hread, hnone⟩ : ∃ bytes, linkedSite.read "log" = .ok bytes ∧
      String.fromUTF8? bytes = none := by
    have hcheck : (linkedSite.read "log").toOption.map String.fromUTF8? = some none := by
      decide +kernel
    cases hread : linkedSite.read "log" with
    | error e => rw [hread] at hcheck; cases hcheck
    | ok bytes =>
      rw [hread] at hcheck
      exact ⟨bytes, rfl, Option.some.inj hcheck⟩
  have hplain : Plain "log" linkedPuts.2 :=
    ⟨wellFormed_of_isWellFormed (by decide +kernel), by decide +kernel, by decide +kernel⟩
  have hcompact : linkedPuts.1.compact linkedPuts.2 = (.ok (), (linkedPuts.1.compact linkedPuts.2).2) :=
    Prod.ext (eq_ok_of_isOk (by decide +kernel)) rfl
  have hputs : linkedPuts = (linkedPuts.1, linkedPuts.2) := rfl
  obtain ⟨-, hget, -, -, hlost, hanew⟩ := puts_loaded_if_text hw hread hputs
  refine ⟨hw, ⟨bytes, hread, hnone⟩, hget "a", hlost hnone, hplain, _, _, hcompact, ?_⟩
  rw [get?, hanew _ _ hplain hcompact]
  exact hget "a"

/-- A working directory with a log of one line, which is no text. -/
def badLineSite : Workspace :=
  ⟨.dir [("ws", .dir [("log", .file 0)])], #[⟨#[0xff, 0x0a]⟩], ["ws"]⟩

/-- A verdict has been put after the line, the put has succeeded, and the verdict is not there when the log is
opened again. -/
theorem put_lost_after_bad_line :
    badLineSite.WellFormed ∧ badLineSite.leads "log" = true ∧ badLineSite.isDir "log" = false ∧
      ((openAt badLineSite "log").put badLineSite "a" ⟨true, .high, "why", "fix"⟩).1.isOk = true ∧
      ((openAt badLineSite "log").put badLineSite "a" ⟨true, .high, "why", "fix"⟩).2.1.get? "a" =
        some ⟨true, .high, "why", "fix"⟩ ∧
      (openAt ((openAt badLineSite "log").put badLineSite "a" ⟨true, .high, "why", "fix"⟩).2.2 "log").get? "a" =
        none := by
  refine ⟨wellFormed_of_isWellFormed (by decide +kernel), ?_, ?_, ?_, ?_, ?_⟩
  all_goals decide +kernel

end Store
end SinkAudit

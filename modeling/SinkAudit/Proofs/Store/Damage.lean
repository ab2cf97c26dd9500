import SinkAudit.Proofs.Store.Durability

/-!
# Damage to a log

A log may hold anything between its line feeds: the start of a record, the cache of some other tool, bytes
that a crash left.  Each line is read by itself, so what is loaded is the union of what the lines record,
taken in their order, where the later of two verdicts for a signature counts.  A line that is no record adds
nothing to it and takes nothing away, wherever it stands.

Lines are cut at line feeds only.  The rows that the reader goes through differ from them in two ways: a row
has lost the carriage return at its end, and an empty line at the end of the log is no row.  Neither shows in
what is recorded (`foldl_readRow_rows`).

* `lines`, `recorded`, `recordedIn`: the lines of a log, and what one line and several lines record.
* `overlaid`: one map over another.
* `get?_foldl_readRow`: reading lines on top of what is known.
* `Gap`: a place for a line in a log; `entries_fill`: a line is read between what is before and after it.
* `Store.damage_stays_local`: the laws of loading.
-/

namespace SinkAudit

namespace Log

/-- The lines of a log: what stands between its line feeds. -/
def lines (log : String) : List String :=
  (log.toList.splitOn '\n').map String.ofList

/-- What a line records, as a map from signatures. -/
def recorded (line sig : String) : Option Verdict :=
  match record? line with
  | some (key, v) => if sig = key then some v else none
  | none => none

/-- One map over another: where the second has a verdict, that one counts. -/
def overlaid (m n : String → Option Verdict) (sig : String) : Option Verdict :=
  (n sig).or (m sig)

/-- What lines record, each over those before it. -/
def recordedIn : List String → String → Option Verdict
  | [] => fun _ => none
  | line :: ls => overlaid (recorded line) (recordedIn ls)

/-! ## Lines and rows -/

theorem lines_of_notMem {line : String} (h : '\n' ∉ line.toList) : lines line = [line] := by
  rw [lines, List.splitOn_eq_singleton h, List.map_singleton, String.ofList_toList]

theorem lines_append_newline {line : String} (h : '\n' ∉ line.toList) (rest : String) :
    lines (line ++ "\n" ++ rest) = line :: lines rest := by
  have hnl : ("\n" : String).toList = ['\n'] := rfl
  rw [lines, String.toList_append, String.toList_append, hnl, List.append_assoc, List.singleton_append,
    List.splitOn_append_cons_self_of_not_mem h, List.map_cons, String.ofList_toList]
  rfl

/-- Rows are lines, but for a carriage return at their end and for an empty line at the end of the log.
The induction is on the characters that are left; `sofar` is the start of the current line. -/
theorem foldl_readRow_rowsFrom :
    ∀ (cs sofar : List Char) (es : Entries), '\n' ∉ sofar →
      ((Text.rowsFrom sofar cs).map String.ofList).foldl readRow es =
        (((sofar.reverse ++ cs).splitOn '\n').map String.ofList).foldl readRow es
  | [], sofar, es, h => by
    have hline : '\n' ∉ sofar.reverse := fun hmem => h (List.mem_reverse.mp hmem)
    rw [List.append_nil, List.splitOn_eq_singleton hline, Text.rowsFrom]
    cases sofar with
    | nil => exact (readRow_of_record?_eq_none record?_empty es).symm
    | cons c sofar => rfl
  | c :: cs, sofar, es, h => by
    by_cases hc : c = '\n'
    · subst hc
      have hline : '\n' ∉ sofar.reverse := fun hmem => h (List.mem_reverse.mp hmem)
      have ih := foldl_readRow_rowsFrom cs []
      rw [Text.rowsFrom_newline, List.splitOn_append_cons_self_of_not_mem hline, List.map_cons,
        List.map_cons, List.foldl_cons, List.foldl_cons, ih _ (by simp), readRow, readRow,
        record?_dropReturn]
      rfl
    · have hsofar : '\n' ∉ c :: sofar := by
        rw [List.mem_cons, not_or]
        exact ⟨fun heq => hc heq.symm, h⟩
      rw [Text.rowsFrom_cons hc, foldl_readRow_rowsFrom cs (c :: sofar) es hsofar, List.reverse_cons,
        List.append_assoc, List.singleton_append]

/-- Reading the rows of a log is reading its lines. -/
theorem foldl_readRow_rows (log : String) (es : Entries) :
    (Text.rows log).foldl readRow es = (lines log).foldl readRow es :=
  foldl_readRow_rowsFrom log.toList [] es (by simp)

/-! ## What is read -/

theorem get?_readRow (es : Entries) (line sig : String) :
    (readRow es line).get? sig = (recorded line sig).or (es.get? sig) := by
  rw [readRow, recorded]
  cases record? line with
  | none => rfl
  | some r =>
    obtain ⟨key, v⟩ := r
    dsimp only
    rw [Entries.get?_insert]
    split
    · rfl
    · rfl

/-- Lines that are read count before what was known. -/
theorem get?_foldl_readRow (sig : String) :
    ∀ (ls : List String) (es : Entries),
      (ls.foldl readRow es).get? sig = (recordedIn ls sig).or (es.get? sig)
  | [], _ => rfl
  | line :: ls, es => by
    rw [List.foldl_cons, get?_foldl_readRow sig ls, get?_readRow, recordedIn, overlaid,
      Option.or_assoc]

/-- A log says what its lines record, each over those before it. -/
theorem get?_entries (log sig : String) : (entries log).get? sig = recordedIn (lines log) sig := by
  rw [entries, foldl_readRow_rows, get?_foldl_readRow]
  exact Option.or_none

/-- What is added to a closed log is read over it. -/
theorem get?_entries_append {log : String} (h : Text.Closed log.toList) (more sig : String) :
    (entries (log ++ more)).get? sig = ((entries more).get? sig).or ((entries log).get? sig) := by
  rw [entries_append_of_closed h, foldl_readRow_rows, get?_foldl_readRow, get?_entries more]

theorem recordedIn_ne_none {sig line : String} (h : recorded line sig ≠ none) :
    ∀ {ls : List String}, line ∈ ls → recordedIn ls sig ≠ none
  | l :: ls, hmem => by
    intro hnone
    obtain ⟨hlater, hfirst⟩ := Option.or_eq_none_iff.mp hnone
    rcases List.mem_cons.mp hmem with rfl | hmem
    · exact h hfirst
    · exact recordedIn_ne_none h hmem hlater

/-! ## One line among others -/

/-- A place for a line in a log: what comes before it, up to a line feed, and what comes after the line
feed at its end, if there is one. -/
structure Gap where
  before : String
  closed : Text.Closed before.toList
  rest : Option String

namespace Gap

/-- The log with a line at the place. -/
def fill (gap : Gap) (line : String) : String :=
  match gap.rest with
  | some rest => gap.before ++ (line ++ "\n" ++ rest)
  | none => gap.before ++ line

/-- The log without the line. -/
def emptied (gap : Gap) : String := gap.before ++ gap.rest.getD ""

/-- The lines after the place. -/
def after (gap : Gap) : List String := lines (gap.rest.getD "")

end Gap

/-- A line is read after what is before it, and before what is after it. -/
theorem entries_fill (gap : Gap) {line : String} (h : '\n' ∉ line.toList) :
    entries (gap.fill line) = gap.after.foldl readRow (readRow (entries gap.before) line) := by
  rw [Gap.fill, Gap.after]
  cases gap.rest with
  | some rest =>
    dsimp only
    rw [entries_append_of_closed gap.closed, foldl_readRow_rows, lines_append_newline h,
      List.foldl_cons, Option.getD_some]
  | none =>
    have hempty : lines "" = [String.ofList []] := rfl
    dsimp only
    rw [entries_append_of_closed gap.closed, foldl_readRow_rows, lines_of_notMem h, Option.getD_none,
      hempty, List.foldl_cons, List.foldl_cons, List.foldl_nil,
      readRow_of_record?_eq_none record?_empty]
    rfl

theorem entries_emptied (gap : Gap) :
    entries gap.emptied = gap.after.foldl readRow (entries gap.before) := by
  rw [Gap.emptied, entries_append_of_closed gap.closed, foldl_readRow_rows]
  rfl

/-- A line that is no record is as good as none. -/
theorem entries_fill_of_record?_eq_none (gap : Gap) {line : String} (h : '\n' ∉ line.toList)
    (hnone : record? line = none) : entries (gap.fill line) = entries gap.emptied := by
  rw [entries_fill gap h, readRow_of_record?_eq_none hnone, entries_emptied]

/-- A line matters to the signature that it records only, and not if a later line records that as well. -/
theorem get?_entries_fill (gap : Gap) {line sig : String} (h : '\n' ∉ line.toList)
    (hsig : recorded line sig = none ∨ ∃ l ∈ gap.after, recorded l sig ≠ none) :
    (entries (gap.fill line)).get? sig = (entries gap.emptied).get? sig := by
  rw [entries_fill gap h, entries_emptied, get?_foldl_readRow, get?_foldl_readRow, get?_readRow]
  rcases hsig with hnone | ⟨l, hl, hsome⟩
  · rw [hnone, Option.none_or]
  · cases hafter : recordedIn gap.after sig with
    | none => exact absurd hafter (recordedIn_ne_none hsome hl)
    | some v => rw [Option.some_or, Option.some_or]

end Log

namespace Store

/-- Opening a log that is text loads what the text says. -/
theorem entries_openAt {w : Workspace} {path log : String} (h : w.readText path = .ok log) :
    (openAt w path).entries = Log.entries log := by
  rw [openAt, h]

theorem get?_openAt {w : Workspace} {path log : String} (h : w.readText path = .ok log) (sig : String) :
    (openAt w path).get? sig = (Log.entries log).get? sig := by
  rw [get?, entries_openAt h]

/-- **Loading.**  What is loaded from a log is what its lines record, each over those before it.  So a log
that is put together of two, the first of which stops at the end of a line, is loaded as the second over the
first.  And where a line is replaced by one that is no record, the same is loaded as if the line were
deleted; a signature that the line does not record, or that a later line records as well, keeps its
verdict. -/
theorem damage_stays_local {w : Workspace} {path log : String} (hlog : w.readText path = .ok log) :
    (openAt w path).get? = Log.recordedIn (Log.lines log) ∧
      (∀ (x y : String) (u v : Workspace), log = x ++ y → Text.Closed x.toList →
        u.readText path = .ok x → v.readText path = .ok y →
        (openAt w path).get? = Log.overlaid (openAt u path).get? (openAt v path).get?) ∧
      ∀ (gap : Log.Gap) (line bad : String) (u : Workspace), log = gap.fill line →
        '\n' ∉ line.toList → '\n' ∉ bad.toList → Log.record? bad = none →
        u.readText path = .ok (gap.fill bad) →
        (∀ v : Workspace, v.readText path = .ok gap.emptied →
          (openAt u path).entries = (openAt v path).entries) ∧
        ∀ sig, (Log.recorded line sig = none ∨ ∃ l ∈ gap.after, Log.recorded l sig ≠ none) →
          (openAt u path).get? sig = (openAt w path).get? sig := by
  refine ⟨funext fun sig => ?_, ?_, ?_⟩
  · rw [get?_openAt hlog, Log.get?_entries]
  · intro x y u v hsplit hclosed hx hy
    refine funext fun sig => ?_
    rw [get?_openAt hlog, hsplit, Log.get?_entries_append hclosed, Log.overlaid, get?_openAt hx,
      get?_openAt hy]
  · intro gap line bad u hfill hline hbad hnone hu
    have hdeleted := Log.entries_fill_of_record?_eq_none gap hbad hnone
    refine ⟨fun v hv => ?_, fun sig hsig => ?_⟩
    · rw [entries_openAt hu, entries_openAt hv, hdeleted]
    · rw [get?_openAt hu, hdeleted, get?_openAt hlog, hfill, Log.get?_entries_fill gap hline hsig]

/-- A working directory with a log. -/
def siteWith (text : String) : Workspace :=
  ⟨.dir [("ws", .dir [("log", .file 0)])], #[text.toUTF8], ["ws"]⟩

theorem readText_siteWith (text : String) : (siteWith text).readText "log" = .ok text := by
  have hhome : (siteWith text).nodeAt? (siteWith text).home = some (.dir [("log", .file 0)]) := rfl
  have hfile : (siteWith text).nodeAt? ("log" :: (siteWith text).home) = some (.file 0) := rfl
  have hcontent : (siteWith text).content 0 = text.toUTF8 := rfl
  rw [Workspace.readText, (standsIn_log hhome).read_file (by decide) hfile, hcontent]
  dsimp only
  rw [Text.fromUTF8?_toUTF8]

/-- A place between two records of one signature. -/
def betweenRecords : Log.Gap :=
  ⟨Log.line "a" .analysisError, Log.closed_line _ _, some (Log.line "a" ⟨true, .high, "why", "fix"⟩)⟩

/-- A record of another signature is damaged so that a string is not closed, with a carriage return and a
character zero in it. -/
theorem damage_stays_local_between :
    Log.record? "\x00\r\x7b\"signature\":\"b" = none ∧
      (openAt (siteWith (betweenRecords.fill "\x00\r\x7b\"signature\":\"b")) "log").entries =
        (openAt (siteWith betweenRecords.emptied) "log").entries ∧
      (openAt (siteWith (betweenRecords.fill "\x00\r\x7b\"signature\":\"b")) "log").get? "a" =
        (openAt (siteWith (betweenRecords.fill (Log.recordJson "b" .analysisError).compact)) "log").get?
          "a" := by
  have hnone : Log.record? "\x00\r\x7b\"signature\":\"b" = none := by decide +kernel
  have hline : '\n' ∉ (Log.recordJson "b" .analysisError).compact.toList :=
    Json.newline_notMem_compact _ (Log.isPlain_recordJson _ _)
  obtain ⟨-, -, hdamage⟩ := damage_stays_local
    (readText_siteWith (betweenRecords.fill (Log.recordJson "b" .analysisError).compact))
  obtain ⟨hdeleted, hkept⟩ := hdamage betweenRecords _ _ _ rfl hline (by decide) hnone
    (readText_siteWith _)
  refine ⟨hnone, hdeleted _ (readText_siteWith _), hkept "a" (Or.inl ?_)⟩
  rw [Log.recorded, Log.record?_compact]
  rfl

end Store

end SinkAudit

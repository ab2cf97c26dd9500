import SinkAudit.Analysis.Audit
import SinkAudit.Proofs.Analysis.Passes
import SinkAudit.Proofs.Store.Provenance
import SinkAudit.Proofs.Workspace.Edits

/-!
# The edits of an audit

An audit changes its workspace through the store alone, and the store edits its log, the file beside the
log in which it is written anew, and the directories above it.

* `Store.LogEdit`: these edits.
* `Store.Writing`: a store whose workspace came of another by such edits.  A log that is open is written
  to by its number, without a look at the path; so all that is appended to it counts with the edit that
  opened it.  `Writing.put` and `Writing.flush` are the steps.
* `audit_edited`: an audit edits a log only if the store is enabled and there is a candidate.
-/

namespace SinkAudit

open Workspace (Edited)

namespace Store

/-- The edits of a store with a log at a path: the directories above the log are made, the log is
written to, and it is written anew beside its place and moved there.  A store without a log makes no
edits. -/
inductive LogEdit : Option String → Edit → Prop
  | parent {path up : String} (h : Path.Above up path) : LogEdit (some path) (.directory up)
  | log (path : String) : LogEdit (some path) (.file path)
  | temp (path : String) : LogEdit (some path) (.file (tempPath path))
  | swap (path : String) : LogEdit (some path) (.replace (tempPath path) path)

variable {w w' : Workspace} {path : String}

theorem edited_createParent (w : Workspace) (path : String) :
    Edited (LogEdit (some path)) w (w.createDirs ((Path.parent? path).getD "")).2 := by
  cases hup : Path.parent? path with
  | none =>
    rw [Option.getD_none, Workspace.createDirs_of_isDir (Or.inl rfl)]
    exact .refl
  | some up =>
    refine Edited.createDirsFrom _ w up ?_
    rintro x (rfl | hx)
    · exact .parent (.parent hup)
    · exact .parent (.further hup hx)

/-- A log that cannot be opened leaves directories that were made. -/
theorem edited_of_openLog_error {e : Error} (h : openLog w path = (.error e, w')) :
    Edited (LogEdit (some path)) w w' := by
  have hparent := edited_createParent w path
  rw [openLog] at h
  split at h
  case h_1 u hmake =>
    cases h
    rw [hmake] at hparent
    exact hparent
  case h_2 u hmake =>
    rw [hmake] at hparent
    split at h
    case h_1 =>
      cases h
      exact hparent
    case h_2 => cases h

/-- A log is opened once the directories above it have been made. -/
theorem exists_edited_of_openLog {i : Nat} (h : openLog w path = (.ok i, w')) :
    ∃ u, Edited (LogEdit (some path)) w u ∧ u.openFile path = .ok (i, w') := by
  have hparent := edited_createParent w path
  rw [openLog] at h
  split at h
  case h_1 => cases h
  case h_2 u hmake =>
    rw [hmake] at hparent
    split at h
    case h_1 => cases h
    case h_2 j u' hopen =>
      cases h
      exact ⟨u, hparent, hopen⟩

/-- The workspace of a store came of another by edits of its log; if the log is open, the last of them
opened it and wrote what it holds. -/
structure Writing (log : Option String) (w : Workspace) (s : Store) (disk : Workspace) : Prop where
  path : s.path = log
  edited : Edited (LogEdit log) w disk
  opened : ∀ i, s.handle = some i → ∃ path u u' bytes, log = some path ∧
    Edited (LogEdit log) w u ∧ u.openFile path = .ok (i, u') ∧ disk = u'.setContent i bytes

end Store

namespace Workspace

/-- Only the last content of a file matters. -/
theorem setContent_setContent (w : Workspace) (i : Nat) (bytes bytes' : ByteArray) :
    (w.setContent i bytes).setContent i bytes' = w.setContent i bytes' := by
  rw [setContent, setContent, setContent]
  exact congrArg (Workspace.mk w.root · w.home) (Array.setIfInBounds_setIfInBounds bytes)

end Workspace

namespace Store

variable {w disk : Workspace} {s : Store} {log : Option String} {path : String}

/-- The log that is written to has been opened by an edit, before or now, and what is written to it
replaces what that edit wrote. -/
theorem Writing.writer (h : Writing (some path) w s disk) {i : Nat} {disk' : Workspace}
    (hwriter : s.writer disk path = (.ok i, disk')) :
    ∃ u u', Edited (LogEdit (some path)) w u ∧ u.openFile path = .ok (i, u') ∧
      ∀ bytes, disk'.setContent i bytes = u'.setContent i bytes := by
  rw [Store.writer] at hwriter
  split at hwriter
  case h_1 j hj =>
    cases hwriter
    obtain ⟨path', u, u', bytes, hpath', hu, hopen, rfl⟩ := h.opened i hj
    obtain rfl : path = path' := Option.some.inj hpath'
    exact ⟨u, u', hu, hopen, u'.setContent_setContent i bytes⟩
  case h_2 =>
    obtain ⟨u, hu, hopen⟩ := exists_edited_of_openLog hwriter
    exact ⟨u, disk', h.edited.trans hu, hopen, fun _ => rfl⟩

/-- Keeping a verdict edits the log. -/
theorem Writing.put (h : Writing log w s disk) (sig : String) (v : Verdict) :
    Writing log w (s.put disk sig v).2.1 (s.put disk sig v).2.2 := by
  cases log with
  | none =>
    rw [Store.put, h.path]
    exact h
  | some path =>
    cases hwriter : s.writer disk path with
    | mk r disk' =>
      cases r with
      | error e =>
        -- Only a log that is not open can fail to be.
        rw [put_of_writer_error h.path hwriter]
        rw [Store.writer] at hwriter
        split at hwriter
        case h_1 => cases hwriter
        case h_2 hnone =>
          refine ⟨h.path, h.edited.trans (edited_of_openLog_error hwriter), fun i hi => ?_⟩
          rw [hnone] at hi
          cases hi
      | ok i =>
        obtain ⟨u, u', hu, hopen, hset⟩ := h.writer hwriter
        rw [put_of_writer h.path hwriter]
        dsimp only
        rw [Workspace.append, hset]
        refine ⟨rfl, hu.step (.log path) (.file hopen _), fun j hj => ?_⟩
        obtain rfl : i = j := Option.some.inj hj
        exact ⟨path, u, u', _, rfl, hu, hopen, rfl⟩

/-- Writing the log anew edits the file beside it, and moves it in the place of the log. -/
theorem Writing.flush (h : Writing log w s disk) {saving : Saving} :
    Edited (LogEdit log) w (s.flush disk saving).2.2 := by
  rw [Store.flush]
  split
  case isFalse => exact h.edited
  case isTrue =>
    cases log with
    | none =>
      rw [compact, h.path]
      exact h.edited
    | some path =>
      rcases compact_cases h.path disk saving with ⟨e, -, hc⟩ | ⟨u, hwrite, houtcome⟩
      · rw [hc]
        exact h.edited
      · have hu := h.edited.trans (Edited.write (.temp path) hwrite)
        rcases houtcome with ⟨kept, e, -, hc⟩ | ⟨-, ⟨e, -, hc⟩ | ⟨u', hrename, hc⟩⟩
        · rw [hc]
          exact hu
        · rw [hc]
          exact hu
        · rw [hc]
          exact hu.step (.swap path) (.replace hrename fun p es hp =>
            Workspace.ne_dir_of_write hwrite hrename hp es)

theorem writing_ofConfig (w : Workspace) (c : CacheConfig) :
    Writing (if c.enabled then some c.path else none) w (ofConfig w c) w := by
  rw [ofConfig]
  cases c.enabled with
  | false => exact ⟨rfl, .refl, fun i hi => by cases hi⟩
  | true =>
    rw [if_pos rfl, if_pos rfl, openAt]
    split
    · exact ⟨rfl, .refl, fun i hi => by cases hi⟩
    · exact ⟨rfl, .refl, fun i hi => by cases hi⟩

end Store

/-! ## Sessions and audits -/

namespace Session

variable {w : Workspace} {log : Option String}

theorem writing_judgeAll (a : Analyzer) :
    ∀ (ms : List (String × Candidate)) (s : Session), Store.Writing log w s.store s.disk →
      Store.Writing log w (judgeAll a ms s).2.store (judgeAll a ms s).2.disk
  | [], s, h => h
  | (sig, c) :: ms, s, h => by
    rw [judgeAll_snd]
    refine writing_judgeAll a ms _ ?_
    cases a.outcome c with
    | none => exact h
    | some v => exact h.put sig v

/-- An analysis edits the log of its store. -/
theorem edited_analyze {s : Session} (h : Store.Writing log w s.store s.disk) (a : Analyzer)
    (cs : List Candidate) : Edited (Store.LogEdit log) w (s.analyze a cs).2.disk := by
  rw [analyze_eq]
  exact (writing_judgeAll a (misses s.store cs) s h).flush

end Session

/-- An audit edits the log of its store, if the store is enabled and there is a candidate. -/
theorem audit_edited {w : Workspace} {root : String} {config : Config} {classifier : Classifier}
    {now : Moment} {a : Audit} (h : audit w root config classifier now = .ok a) :
    Edited (fun e => config.cache.enabled = true ∧ a.report.candidates ≠ 0 ∧
      Store.LogEdit (some config.cache.path) e) w a.disk := by
  rw [audit] at h
  -- nothing here depends on which rules there are
  generalize Scanner.builtin config.scan = scanner at h
  dsimp only at h
  split at h
  case h_1 => cases h
  case h_2 candidates _ =>
    split at h
    case isTrue =>
      cases h
      exact .refl
    case isFalse hfound =>
      cases h
      have hedited := Session.edited_analyze (s := { store := .ofConfig w config.cache, disk := w })
        (Store.writing_ofConfig w config.cache) ⟨classifier, scanner.catalog⟩ candidates
      refine hedited.mono fun e he => ?_
      cases henabled : config.cache.enabled with
      | false =>
        rw [henabled] at he
        cases he
      | true =>
        rw [henabled, if_pos rfl] at he
        refine ⟨rfl, fun hzero => hfound ?_, he⟩
        exact List.isEmpty_iff.mpr (List.length_eq_zero_iff.mp hzero)

end SinkAudit

import SinkAudit.Proofs.Store.Holding
import SinkAudit.Proofs.Workspace.Listing

/-!
# Durability of the store

However a store is used, its log says at every moment what the store has in memory.

* `LogSite`: a path at which a log can be kept, with the directory above it there or still to be
  made.
* `Action`, `run`: what is done with a store, and doing it in turn.
* `Kept`: the invariant.  Until the directory above the log has been made there is no log, and nothing
  in memory; from then on the two agree (`Synced`).
* `Kept.apply`: one action keeps it; `Kept.run`: so does a whole run.
-/

namespace SinkAudit

open Workspace

namespace Store

/-! ## Where a log can be kept -/

/-- A path at which a log can be kept: it ends with a name, the directories above can be made, and
neither the log nor the path beside it is a directory or a link.  A log that is there holds text. -/
structure LogSite (w : Workspace) (path : String) : Prop where
  wellFormed : w.WellFormed
  named : ∃ k, Named path k
  parent : (w.createDirs ((Path.parent? path).getD "")).1 = .ok ()
  log : (∃ d k, (withParent w path).resolve .inspect path = .ok (.missing d k)) ∨
    ∃ p i text, (withParent w path).resolve .inspect path = .ok (.found p (.file i)) ∧
      w.readText path = .ok text
  temp : ∀ p n, (withParent w path).resolve .inspect (tempPath path) = .ok (.found p n) →
    ∃ i, n = .file i

/-! ## Actions -/

/-- What can be done with a store. -/
inductive Action where
  | put (sig : String) (v : Verdict)
  | get (sig : String)
  | compact
  | flush
  | reopen

/-- The store and its workspace after an action; opening again starts from the log alone. -/
def Action.apply (path : String) : Action → Store × Workspace → Store × Workspace
  | .put sig v, (s, w) => (s.put w sig v).2
  | .get _, x => x
  | .compact, (s, w) => (s.compact w).2
  | .flush, (s, w) => (s.flush w).2
  | .reopen, (_, w) => (openAt w path, w)

/-- Actions in turn. -/
def run (path : String) : List Action → Store × Workspace → Store × Workspace
  | [], x => x
  | a :: acts, x => run path acts (a.apply path x)

/-- The verdict that was put last for a signature. -/
def lastPut (sig : String) : List Action → Option Verdict
  | [] => none
  | .put k v :: acts => (lastPut sig acts).or (if k = sig then some v else none)
  | _ :: acts => lastPut sig acts

/-! ## The invariant -/

/-- A store that nothing has been put into, with a log that is missing. -/
def fresh (path : String) : Store := ⟨some path, [], none, false, 0⟩

/-- The log of a store says what the store has in memory, or there is no log and nothing to say. -/
inductive Kept (path k : String) : Store → Workspace → Prop
  | pending {d : Place} {w w₁ : Workspace}
    (make : w.createDirs ((Path.parent? path).getD "") = (.ok (), w₁))
    (named : Named path k) (away : ¬∃ d, StandsIn w path k d)
    (synced : Synced path k d "" (fresh path) w₁) : Kept path k (fresh path) w
  | synced {d : Place} {text : String} {s : Store} {w : Workspace}
    (h : Synced path k d text s w) : Kept path k s w

section Steps

variable {path k : String} {s : Store} {w : Workspace}

theorem ofBytes_empty (path : String) : ofBytes path ByteArray.empty = fresh path :=
  ofBytes_toUTF8 path ""

/-- The bytes of the log are those of a text that says what is in memory. -/
theorem Kept.exists_held (h : Kept path k s w) :
    ∃ text : String, Held path k text.toUTF8 s w ∧ s.entries = Log.entries text ∧
      s.torn = Log.isTorn text := by
  cases h with
  | pending make named away synced =>
    exact ⟨"", .pending make named away rfl synced.attached, rfl, rfl⟩
  | @synced d text _ _ h => exact ⟨text, .attached h.attached, h.entries, h.torn⟩

/-- A store that is opened has in memory what its log says. -/
theorem Held.kept_openAt {text : String} (h : Held path k text.toUTF8 s w) :
    Kept path k (openAt w path) w := by
  generalize hbytes : text.toUTF8 = bytes at h
  cases h with
  | pending make named away closed hattached =>
    rw [openAt_away named away, ofBytes_empty]
    have hfresh : Attached path k _ (String.toUTF8 "") (fresh path) _ :=
      hattached.of_eq hattached.path_eq.symm closed.symm
    exact .pending make named away (hfresh.synced rfl rfl)
  | attached hattached =>
    subst hbytes
    have hreopen := hattached.reopen
    rw [hattached.openAt_eq, ofBytes_toUTF8] at hreopen ⊢
    exact .synced (hreopen.synced rfl rfl)

theorem Kept.openAt_entries (h : Kept path k s w) : (openAt w path).entries = s.entries := by
  obtain ⟨text, hheld, hentries, -⟩ := h.exists_held
  rw [hheld.openAt_eq, ofBytes_toUTF8, hentries]

theorem Kept.sorted (h : Kept path k s w) : s.entries.Sorted := by
  obtain ⟨text, -, hentries, -⟩ := h.exists_held
  exact hentries ▸ Log.sorted_entries text

theorem Kept.reopen (h : Kept path k s w) : Kept path k (openAt w path) w := by
  obtain ⟨text, hheld, -⟩ := h.exists_held
  exact hheld.kept_openAt

theorem Kept.put (h : Kept path k s w) (sig : String) (v : Verdict) :
    ∃ s' w', s.put w sig v = (.ok (), s', w') ∧ s'.entries = s.entries.insert sig v ∧
      s'.appended = s.appended + 1 ∧ Kept path k s' w' := by
  obtain ⟨text, hheld, hentries, htorn⟩ := h.exists_held
  obtain ⟨d, i, w', hput, hattached⟩ := hheld.put sig v
  rw [htorn, ← Text.toUTF8_append] at hattached
  refine ⟨_, w', hput, rfl, rfl, .synced (hattached.synced ?_ ?_)⟩
  · rw [Log.entries_append_addition, hentries]
  · rw [Log.isTorn_append_addition]

theorem Kept.compact (h : Kept path k s w) :
    ∃ r s' w', s.compact w = (r, s', w') ∧ s'.entries = s.entries ∧ Kept path k s' w' := by
  obtain ⟨text, hheld, hentries, -⟩ := h.exists_held
  rcases hheld.compact with ⟨d, w', hcompact, hattached⟩ | ⟨e, he⟩
  · exact ⟨_, _, w', hcompact, rfl,
      .synced (hattached.synced (Log.entries_text h.sorted).symm (Log.isTorn_text s.entries).symm)⟩
  · exact ⟨_, s, w, he, rfl, h⟩

theorem Kept.flush (h : Kept path k s w) :
    ∃ r s' w', s.flush w = (r, s', w') ∧ s'.entries = s.entries ∧ Kept path k s' w' := by
  rw [Store.flush]
  by_cases happended : 0 < s.appended
  · rw [if_pos happended]
    exact h.compact
  · rw [if_neg happended]
    exact ⟨_, s, w, rfl, rfl, h⟩

/-! ## Runs -/

/-- One action keeps the invariant, and only a `put` changes what is in memory. -/
theorem Kept.apply (h : Kept path k s w) (a : Action) :
    Kept path k (a.apply path (s, w)).1 (a.apply path (s, w)).2 ∧
      ∀ sig, (a.apply path (s, w)).1.get? sig = (lastPut sig [a]).or (s.get? sig) := by
  cases a with
  | put key v =>
    obtain ⟨s', w', hput, hentries, -, hkept⟩ := h.put key v
    rw [Action.apply, hput]
    refine ⟨hkept, fun sig => ?_⟩
    rw [get?, hentries, Entries.get?_insert, lastPut, lastPut, Option.none_or]
    by_cases hkey : sig = key
    · rw [if_pos hkey, if_pos hkey.symm, Option.some_or]
    · rw [if_neg hkey, if_neg fun h => hkey h.symm, Option.none_or, get?]
  | get key => exact ⟨h, fun sig => rfl⟩
  | compact =>
    obtain ⟨r, s', w', hcompact, hentries, hkept⟩ := h.compact
    rw [Action.apply, hcompact]
    exact ⟨hkept, fun sig => by rw [get?, hentries]; rfl⟩
  | flush =>
    obtain ⟨r, s', w', hflush, hentries, hkept⟩ := h.flush
    rw [Action.apply, hflush]
    exact ⟨hkept, fun sig => by rw [get?, hentries]; rfl⟩
  | reopen =>
    rw [Action.apply]
    exact ⟨h.reopen, fun sig => by rw [get?, h.openAt_entries]; rfl⟩

theorem lastPut_cons (sig : String) (a : Action) (acts : List Action) :
    lastPut sig (a :: acts) = (lastPut sig acts).or (lastPut sig [a]) := by
  cases a with
  | put k v => rw [lastPut, lastPut, lastPut, Option.none_or]
  | get k => exact (Option.or_none).symm
  | compact => exact (Option.or_none).symm
  | flush => exact (Option.or_none).symm
  | reopen => exact (Option.or_none).symm

/-- A run keeps the invariant, and leaves in memory what was put last. -/
theorem Kept.run :
    ∀ (acts : List Action) {s : Store} {w : Workspace}, Kept path k s w →
      Kept path k (run path acts (s, w)).1 (run path acts (s, w)).2 ∧
        ∀ sig, (run path acts (s, w)).1.get? sig = (lastPut sig acts).or (s.get? sig)
  | [], _, _, h => ⟨h, fun _ => rfl⟩
  | a :: acts, s, w, h => by
    obtain ⟨hstep, hget⟩ := h.apply a
    obtain ⟨hrun, hget'⟩ := Kept.run acts hstep
    refine ⟨hrun, fun sig => ?_⟩
    rw [Store.run, hget' sig, hget sig, ← Option.or_assoc, ← lastPut_cons]

end Steps

/-! ## Opening the store -/

section Opening

variable {w : Workspace} {path k : String}

theorem LogSite.logPlace (h : LogSite w path) : LogPlace w path := by
  refine ⟨h.wellFormed, h.named, h.parent, h.log.imp_right ?_, h.temp⟩
  rintro ⟨p, i, text, hlog, htext⟩
  exact ⟨p, i, text.toUTF8, hlog, read_of_readText htext⟩

theorem LogPlace.logSite (h : LogPlace w path)
    (htext : ∀ bytes, w.read path = .ok bytes → ∃ text, w.readText path = .ok text) :
    LogSite w path := by
  refine ⟨h.wellFormed, h.named, h.parent, h.log.imp_right ?_, h.temp⟩
  rintro ⟨p, i, bytes, hlog, hbytes⟩
  obtain ⟨text, hread⟩ := htext bytes hbytes
  exact ⟨p, i, text, hlog, hread⟩

/-- A store that is opened at a site for a log has in memory what its log says. -/
theorem LogSite.kept_openAt (h : LogSite w path) (hk : Named path k) :
    Kept path k (openAt w path) w := by
  obtain ⟨bytes, hheld, hbytes⟩ := h.logPlace.exists_held hk
  obtain ⟨text, rfl⟩ : ∃ text : String, bytes = text.toUTF8 := by
    rcases hbytes with rfl | ⟨p, i, hfile, hread⟩
    · exact ⟨"", rfl⟩
    · rcases h.log with ⟨q, l, hlog⟩ | ⟨q, j, text, -, htext⟩
      · rw [hfile] at hlog
        exact absurd hlog (by simp)
      · rw [read_of_readText htext, Except.ok.injEq] at hread
        exact ⟨text, hread.symm⟩
  exact hheld.kept_openAt

end Opening

/-- **Durability.**  After any actions on a store opened at a site for a log, opening the log again
gives exactly what the store has in memory, and that is for each signature the verdict put last, or
the one that the log gave for it in the beginning. -/
theorem run_durable {w : Workspace} {path : String} (h : LogSite w path) (acts : List Action) :
    (openAt (run path acts (openAt w path, w)).2 path).entries =
        (run path acts (openAt w path, w)).1.entries ∧
      ∀ sig, (run path acts (openAt w path, w)).1.get? sig =
        (lastPut sig acts).or ((openAt w path).get? sig) := by
  obtain ⟨k, hk⟩ := h.named
  obtain ⟨hkept, hget⟩ := Kept.run acts (h.kept_openAt hk)
  exact ⟨hkept.openAt_entries, hget⟩

section WorkingDirectory

variable {w : Workspace} {es : List (String × Node)}

theorem standsIn_log (h : w.nodeAt? w.home = some (.dir es)) : StandsIn w "log" "log" w.home :=
  standsIn_home h ⟨by decide, by decide, by decide⟩ (by decide) (by decide)

theorem named_log : Named "log" "log" :=
  (standsIn_log (show (Workspace.empty "ws").nodeAt? ["ws"] = some (.dir []) from rfl)).toNamed

theorem tempPath_log : tempPath "log" = "log.tmp" := by
  have hup : Path.parent? "log" = some "" := rfl
  rw [tempPath_eq named_log, Path.withFileName, named_log.fileName?_eq, hup]
  exact if_pos (Bool.or_true _)

/-- A log in the working directory, with nothing beside it. -/
theorem logPlace_log (hw : w.WellFormed) (hhome : w.nodeAt? w.home = some (.dir es))
    (hlog : w.Vacant ("log" :: w.home)) (htemp : w.nodeAt? ("log.tmp" :: w.home) = none) :
    LogPlace w "log" := by
  have hstands : StandsIn w "log.tmp" "log.tmp" w.home :=
    standsIn_home hhome ⟨by decide, by decide, by decide⟩ (by decide) (by decide)
  have hparent : w.createDirs ((Path.parent? "log").getD "") = (.ok (), w) :=
    createDirs_of_isDir (Or.inl rfl)
  have hsame : withParent w "log" = w := by rw [withParent, hparent]
  have hentry := (standsIn_log hhome).resolve_entry (by decide) hlog
  refine ⟨hw, ⟨_, named_log⟩, by rw [hparent], ?_, fun p n h => ?_⟩
  · rw [hsame, hentry]
    rcases hlog with hnone | ⟨i, hi⟩
    · exact Or.inl ⟨w.home, "log", by rw [entryTarget, hnone]⟩
    · exact Or.inr ⟨"log" :: w.home, i, _, by rw [entryTarget, hi],
        (standsIn_log hhome).read_file (by decide) hi⟩
  · rw [hsame, tempPath_log, hstands.resolve_entry (by decide) (Or.inl htemp), entryTarget,
      htemp] at h
    exact absurd h (by simp)

end WorkingDirectory

/-- A working directory with a log that stops in the middle of a row. -/
def tornSite : Workspace := ⟨.dir [("ws", .dir [("log", .file 0)])], #["torn".toUTF8], ["ws"]⟩

theorem wellFormed_tornSite : tornSite.WellFormed :=
  wellFormed_of_isWellFormed (by decide +kernel)

theorem nodeAt?_home_tornSite :
    tornSite.nodeAt? tornSite.home = some (.dir [("log", .file 0)]) := rfl

theorem readText_tornSite : tornSite.readText "log" = .ok "torn" := by
  have hfile : tornSite.nodeAt? ("log" :: tornSite.home) = some (.file 0) := rfl
  have hcontent : tornSite.content 0 = "torn".toUTF8 := rfl
  rw [readText, (standsIn_log nodeAt?_home_tornSite).read_file (by decide) hfile, hcontent]
  dsimp only
  rw [Text.fromUTF8?_toUTF8]

theorem logSite_tornSite : LogSite tornSite "log" :=
  (logPlace_log wellFormed_tornSite nodeAt?_home_tornSite (Or.inr ⟨0, rfl⟩) rfl).logSite
    fun _ _ => ⟨"torn", readText_tornSite⟩

/-- A verdict that is put after a torn row is there when the log is opened again. -/
theorem run_durable_torn :
    LogSite tornSite "log" ∧
      (openAt (run "log" [.put "a" .analysisError, .reopen, .compact]
        (openAt tornSite "log", tornSite)).2 "log").entries =
        (run "log" [.put "a" .analysisError, .reopen, .compact]
          (openAt tornSite "log", tornSite)).1.entries ∧
      (run "log" [.put "a" .analysisError, .reopen, .compact]
        (openAt tornSite "log", tornSite)).1.get? "a" = some .analysisError := by
  obtain ⟨hopen, hget⟩ := run_durable logSite_tornSite [.put "a" .analysisError, .reopen, .compact]
  exact ⟨logSite_tornSite, hopen, hget "a"⟩

end Store
end SinkAudit

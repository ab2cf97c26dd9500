import SinkAudit.Proofs.Store.Site

/-!
# Where a log can be kept

A store is opened at a path, and only its first `put` makes the directories above the log.  So a log
is in one of two states: it has bytes, which may be none; or the directory for it is still to be made,
and then it has none.

* `LogPlace`: a path at which a log can be kept, with the directory above it there or still to be
  made.  The log may hold any bytes.
* `Held`: the bytes of the log of a store, in either state.
* `Held.put`, `Held.compact`, `Held.flush`, `Held.openAt_eq`: what a store does to these bytes, and
  what it gets when it is opened at them; `Held.put_cut`, `Held.compact_cut`: what it does to them where
  there is a fault.
* `LogPlace.exists_held`: a store that is opened at such a path holds its log.
-/

namespace SinkAudit

open Workspace

namespace Store

/-- The workspace once the directories above a log have been made. -/
def withParent (w : Workspace) (path : String) : Workspace :=
  (w.createDirs ((Path.parent? path).getD "")).2

/-- A path at which a log can be kept: it ends with a name, the directories above can be made, and
neither the log nor the path beside it is a directory or a link.  A log that is there can be read. -/
structure LogPlace (w : Workspace) (path : String) : Prop where
  wellFormed : w.WellFormed
  named : ∃ k, Named path k
  parent : (w.createDirs ((Path.parent? path).getD "")).1 = .ok ()
  log : (∃ d k, (withParent w path).resolve .inspect path = .ok (.missing d k)) ∨
    ∃ p i bytes, (withParent w path).resolve .inspect path = .ok (.found p (.file i)) ∧
      w.read path = .ok bytes
  temp : ∀ p n, (withParent w path).resolve .inspect (tempPath path) = .ok (.found p n) →
    ∃ i, n = .file i

/-- The bytes that the log of a store has, or none because the directory for it is not made yet. -/
inductive Held (path k : String) : ByteArray → Store → Workspace → Prop
  | pending {d : Place} {s : Store} {w w₁ : Workspace}
    (make : w.createDirs ((Path.parent? path).getD "") = (.ok (), w₁))
    (named : Named path k) (away : ¬∃ d, StandsIn w path k d) (closed : s.handle = none)
    (attached : Attached path k d ByteArray.empty s w₁) : Held path k ByteArray.empty s w
  | attached {d : Place} {bytes : ByteArray} {s : Store} {w : Workspace}
    (h : Attached path k d bytes s w) : Held path k bytes s w

section Steps

variable {path k : String} {bytes : ByteArray} {s : Store} {w : Workspace}

/-- What a store has in memory does not matter to its log. -/
theorem Held.of_eq {s' : Store} (h : Held path k bytes s w) (hpath : s'.path = s.path)
    (hhandle : s'.handle = s.handle) : Held path k bytes s' w := by
  cases h with
  | pending make named away closed hattached =>
    exact .pending make named away (hhandle.trans closed) (hattached.of_eq hpath hhandle)
  | attached h => exact .attached (h.of_eq hpath hhandle)

theorem read_away (hnamed : Named path k) (away : ¬∃ d, StandsIn w path k d) :
    ∃ e, w.read path = .error e := by
  obtain ⟨e, he⟩ := hnamed.resolve_eq_error away
  exact ⟨e, by rw [Workspace.read, node, he]⟩

theorem openAt_away (hnamed : Named path k) (away : ¬∃ d, StandsIn w path k d) :
    openAt w path = ofBytes path ByteArray.empty := by
  obtain ⟨e, he⟩ := read_away hnamed away
  exact openAt_of_read_error he

/-- Opening the log anew gives what its bytes say. -/
theorem Held.openAt_eq (h : Held path k bytes s w) : openAt w path = ofBytes path bytes := by
  cases h with
  | pending _ named away _ _ => exact openAt_away named away
  | attached h => exact h.openAt_eq

theorem Held.reopen (h : Held path k bytes s w) : Held path k bytes (openAt w path) w := by
  cases h with
  | pending make named away closed hattached =>
    rw [openAt_away named away]
    have hempty : (ofBytes path ByteArray.empty).handle = none := ofBytes_handle _ _
    refine .pending make named away hempty (hattached.of_eq ?_ (hempty.trans closed.symm))
    rw [ofBytes_path, hattached.path_eq]
  | attached h => exact .attached h.reopen

/-- The first `put` makes the directories above the log, and finds them where they are made. -/
theorem put_pending {d : Place} {w₁ : Workspace}
    (make : w.createDirs ((Path.parent? path).getD "") = (.ok (), w₁)) (closed : s.handle = none)
    (h : Attached path k d bytes s w₁) (sig : String) (v : Verdict) (saving : Saving) :
    s.put w sig v saving = s.put w₁ sig v saving := by
  have hopen : openLog w path = openLog w₁ path := by
    rw [openLog, openLog, make, h.site.stands.createDirs_eq h.site.above]
  obtain ⟨i, w₂, hwriter, -⟩ := h.writer_ok
  have hwriter' : s.writer w path = (.ok i, w₂) := by
    rw [← hwriter, writer, writer, closed]
    exact hopen
  cases saving with
  | done => rw [put_of_writer h.path_eq hwriter, put_of_writer h.path_eq hwriter']
  | cut kept fault =>
    rw [put_of_writer_cut h.path_eq hwriter, put_of_writer_cut h.path_eq hwriter']

/-- Keeping a verdict adds a record to the log. -/
theorem Held.put (h : Held path k bytes s w) (sig : String) (v : Verdict) :
    ∃ d i w', s.put w sig v =
        (.ok (), ⟨some path, s.entries.insert sig v, some i, false, s.appended + 1⟩, w') ∧
      Attached path k d (bytes ++ (Log.addition s.torn sig v).toUTF8)
        ⟨some path, s.entries.insert sig v, some i, false, s.appended + 1⟩ w' := by
  cases h with
  | pending make _ _ closed hattached =>
    obtain ⟨i, w', hput, h'⟩ := hattached.put_ok sig v
    refine ⟨_, i, w', ?_, h'⟩
    rw [put_pending make closed hattached, hput]
  | attached h =>
    obtain ⟨i, w', hput, h'⟩ := h.put_ok sig v
    exact ⟨_, i, w', hput, h'⟩

/-- Where what is put is cut off, the first part of a record is in the log. -/
theorem Held.put_cut (h : Held path k bytes s w) (sig : String) (v : Verdict) (kept : Nat)
    (fault : FileFault) :
    ∃ d, Attached path k d (bytes ++ (Log.addition s.torn sig v).toUTF8.extract 0 kept)
      (s.put w sig v (.cut kept fault)).2.1 (s.put w sig v (.cut kept fault)).2.2 := by
  cases h with
  | pending make _ _ closed hattached =>
    obtain ⟨i, w', hput, h'⟩ := hattached.put_cut sig v kept fault
    rw [put_pending make closed hattached, hput]
    exact ⟨_, h'⟩
  | attached h =>
    obtain ⟨i, w', hput, h'⟩ := h.put_cut sig v kept fault
    rw [hput]
    exact ⟨_, h'⟩

/-- Nothing can be written beside a log whose directory is not there. -/
theorem compact_away (hpath : s.path = some path) (hnamed : Named path k)
    (away : ¬∃ d, StandsIn w path k d) (saving : Saving) :
    ∃ e, s.compact w saving = (.error e, s, w) := by
  obtain ⟨e, he⟩ : ∃ e, w.resolve .create (tempPath path) = .error e := by
    cases hfault : pathFault? (tempPath path) with
    | some e => exact ⟨e, by rw [resolve, hfault]⟩
    | none =>
      have tempAway : ¬∃ d, StandsIn w (tempPath path) (tempName k) d := by
        rintro ⟨d, hd⟩
        exact away ⟨d, (standsIn_tempPath_iff hnamed hfault).mp hd⟩
      obtain ⟨e, he⟩ := (named_tempPath hnamed hfault).resolve_eq_error tempAway
      exact ⟨e, he .create⟩
  exact ⟨.file e, compact_of_write_error hpath (write_error he _)⟩

/-- Writing the log anew leaves one record for each signature, or fails and changes nothing. -/
theorem Held.compact (h : Held path k bytes s w) :
    (∃ d w', s.compact w = (.ok (), { s with handle := none, torn := false, appended := 0 }, w') ∧
        Attached path k d (Log.text s.entries).toUTF8
          { s with handle := none, torn := false, appended := 0 } w') ∨
      ∃ e, s.compact w = (.error e, s, w) := by
  cases h with
  | pending _ named away _ hattached => exact Or.inr (compact_away hattached.path_eq named away .done)
  | attached h =>
    by_cases hfits : TempFits path k
    · obtain ⟨w', hcompact, -, h'⟩ := h.compact_ok hfits
      exact Or.inl ⟨_, w', hcompact, h'⟩
    · exact Or.inr (h.compact_error hfits)

/-- `flush` writes the log anew, or changes nothing. -/
theorem Held.flush (h : Held path k bytes s w) :
    (∃ d w', s.flush w = (.ok (), { s with handle := none, torn := false, appended := 0 }, w') ∧
        Attached path k d (Log.text s.entries).toUTF8
          { s with handle := none, torn := false, appended := 0 } w') ∨
      ∃ r, s.flush w = (r, s, w) := by
  rw [Store.flush]
  split
  · rcases h.compact with hok | ⟨e, he⟩
    · exact Or.inl hok
    · exact Or.inr ⟨_, he⟩
  · exact Or.inr ⟨_, rfl⟩

/-- Where what is written anew is cut off, nothing has happened to the log. -/
theorem Held.compact_cut (h : Held path k bytes s w) (kept : Nat) (fault : FileFault) :
    Held path k bytes (s.compact w (.cut kept fault)).2.1 (s.compact w (.cut kept fault)).2.2 := by
  cases h with
  | pending make named away closed hattached =>
    obtain ⟨e, he⟩ := compact_away hattached.path_eq named away (.cut kept fault)
    rw [he]
    exact .pending make named away closed hattached
  | attached h =>
    rcases compact_cases h.path_eq w (.cut kept fault) with
      ⟨e, -, hc⟩ | ⟨w₁, hwrite, ⟨-, e, -, hc⟩ | ⟨hdone, -⟩⟩
    · rw [hc]
      exact .attached h
    · rw [hc]
      exact .attached (h.write_beside hwrite)
    · cases hdone

/-- Whatever becomes of what is put, the store holds its log. -/
theorem Held.exists_put (h : Held path k bytes s w) (sig : String) (v : Verdict) (saving : Saving) :
    ∃ bytes', Held path k bytes' (s.put w sig v saving).2.1 (s.put w sig v saving).2.2 := by
  cases saving with
  | done =>
    obtain ⟨d, i, w', hput, h'⟩ := h.put sig v
    rw [hput]
    exact ⟨_, .attached h'⟩
  | cut kept fault =>
    obtain ⟨d, h'⟩ := h.put_cut sig v kept fault
    exact ⟨_, .attached h'⟩

theorem Held.exists_compact (h : Held path k bytes s w) (saving : Saving) :
    ∃ bytes', Held path k bytes' (s.compact w saving).2.1 (s.compact w saving).2.2 := by
  cases saving with
  | done =>
    rcases h.compact with ⟨d, w', hcompact, h'⟩ | ⟨e, he⟩
    · rw [hcompact]
      exact ⟨_, .attached h'⟩
    · rw [he]
      exact ⟨_, h⟩
  | cut kept fault => exact ⟨_, h.compact_cut kept fault⟩

theorem Held.exists_flush (h : Held path k bytes s w) (saving : Saving) :
    ∃ bytes', Held path k bytes' (s.flush w saving).2.1 (s.flush w saving).2.2 := by
  rw [Store.flush]
  split
  · exact h.exists_compact saving
  · exact ⟨_, h⟩

end Steps

/-! ## Opening the store -/

section Opening

variable {w : Workspace} {path k : String} {d : Place}

/-- What a path leads to is missing only if nothing is at its place. -/
theorem nodeAt?_of_missing {p : Place} {l : String}
    (h : Target.missing p l = w.entryTarget d k) : w.nodeAt? (k :: d) = none := by
  rw [entryTarget] at h
  cases hnode : w.nodeAt? (k :: d) with
  | none => rfl
  | some n => rw [hnode] at h; exact absurd h (by simp)

theorem nodeAt?_of_found {p : Place} {n : Node} (h : Target.found p n = w.entryTarget d k) :
    w.nodeAt? (k :: d) = some n := by
  rw [entryTarget] at h
  cases hnode : w.nodeAt? (k :: d) with
  | none => rw [hnode] at h; exact absurd h (by simp)
  | some m =>
    rw [hnode] at h
    simp only [Target.found.injEq] at h
    rw [h.2]

theorem LogPlace.createDirs_eq (h : LogPlace w path) :
    w.createDirs ((Path.parent? path).getD "") = (.ok (), withParent w path) :=
  Prod.ext h.parent rfl

/-- The directory of the log, once it is there, is a site for it. -/
theorem LogPlace.exists_site (h : LogPlace w path) (hk : Named path k) :
    ∃ d, Site path k d (withParent w path) := by
  obtain ⟨hgrows, habove⟩ := createDirs_ok h.createDirs_eq
  obtain ⟨d, hstands, hshort, hlog⟩ : ∃ d, StandsIn (withParent w path) path k d ∧
      k.utf8ByteSize ≤ maxName ∧ (withParent w path).Vacant (k :: d) := by
    rcases h.log with ⟨p, l, hlog⟩ | ⟨p, i, bytes, hlog, -⟩
    · obtain ⟨d, hstands, hshort, htarget⟩ := hk.exists_standsIn hlog
      exact ⟨d, hstands, hshort, Or.inl (nodeAt?_of_missing htarget)⟩
    · obtain ⟨d, hstands, hshort, htarget⟩ := hk.exists_standsIn hlog
      exact ⟨d, hstands, hshort, Or.inr ⟨i, nodeAt?_of_found htarget⟩⟩
  refine ⟨d, hstands, hshort, hgrows.wellFormed h.wellFormed,
    habove.imp_right fun hdir => (isDir_iff.mp hdir).1, hlog, fun hfits => ?_⟩
  have htemp := (standsIn_tempPath_iff hk hfits.fault).mpr hstands
  obtain ⟨es, hes⟩ := htemp.exists_dir
  have hresolve := htemp.resolve_eq hes (Or.inl (Eq.refl Purpose.inspect))
  rw [lastTarget_eq hes hfits.short] at hresolve
  cases hnode : (withParent w path).nodeAt? (tempName k :: d) with
  | none => exact Or.inl hnode
  | some n =>
    rw [entryTarget, hnode] at hresolve
    obtain ⟨i, rfl⟩ := h.temp _ _ hresolve
    exact Or.inr ⟨i, hnode⟩

/-- A store that is opened holds its log.  Where there are bytes in it, they are those of a file. -/
theorem LogPlace.exists_held (h : LogPlace w path) (hk : Named path k) :
    ∃ bytes, Held path k bytes (openAt w path) w ∧ (bytes = ByteArray.empty ∨
      ∃ p i, (withParent w path).resolve .inspect path = .ok (.found p (.file i)) ∧
        w.read path = .ok bytes) := by
  obtain ⟨d, hsite⟩ := h.exists_site hk
  have hresolve := hsite.stands.resolve_entry hsite.short hsite.log
  have hmissing : ∀ {w' : Workspace}, Site path k d w' → w'.nodeAt? (k :: d) = none →
      Attached path k d ByteArray.empty (ofBytes path ByteArray.empty) w' := fun hsite' hnone =>
    ⟨hsite', ofBytes_path _ _, Or.inl ⟨hnone, rfl, ofBytes_handle _ _⟩⟩
  by_cases hthere : ∃ d, StandsIn w path k d
  · -- The directory was there before, so that making it has changed nothing.
    obtain ⟨d', hd'⟩ := hthere
    have hsame : withParent w path = w := by
      rw [withParent, hd'.createDirs_eq hsite.above]
    rcases h.log with ⟨p, l, hlog⟩ | ⟨p, i, bytes, hlog, hbytes⟩
    · rw [hresolve, Except.ok.injEq] at hlog
      rw [hsame] at hsite hlog
      have hattached := hmissing hsite (nodeAt?_of_missing hlog.symm)
      exact ⟨_, .attached hattached.reopen, Or.inl rfl⟩
    · refine ⟨bytes, ?_, Or.inr ⟨p, i, hlog, hbytes⟩⟩
      rw [hresolve, Except.ok.injEq] at hlog
      rw [hsame] at hsite hlog
      have hi := nodeAt?_of_found hlog.symm
      have hcontent : w.content i = bytes := by
        rw [hsite.stands.read_file hsite.short hi, Except.ok.injEq] at hbytes
        exact hbytes
      rw [openAt_of_read hbytes]
      refine .attached ⟨hsite, ofBytes_path _ _, Or.inr ⟨i, hi, hcontent, fun j hj => ?_⟩⟩
      rw [ofBytes_handle] at hj
      exact absurd hj (by simp)
  · -- Without its directory the log cannot be read, so it is missing.
    obtain ⟨e, he⟩ := read_away hk hthere
    rcases h.log with ⟨p, l, hlog⟩ | ⟨-, -, bytes, -, hbytes⟩
    · rw [hresolve, Except.ok.injEq] at hlog
      have hattached := hmissing hsite (nodeAt?_of_missing hlog.symm)
      have hheld := Held.pending h.createDirs_eq hk hthere (ofBytes_handle _ _) hattached
      exact ⟨_, hheld.reopen, Or.inl rfl⟩
    · rw [he] at hbytes
      exact absurd hbytes (by simp)

end Opening

end Store
end SinkAudit

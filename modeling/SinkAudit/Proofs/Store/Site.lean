import SinkAudit.Proofs.Store.Log
import SinkAudit.Proofs.Text.Encoding
import SinkAudit.Proofs.Workspace.Directories
import SinkAudit.Store.Basic

/-!
# A store and its log

What a store does to its log, at a place where a log can be kept.

* `Site`: the log and the text beside it that replaces it stand in one directory, where each is a
  file or missing.
* `Attached`: the bytes that the log of a store has, whatever the store has in memory.
* `compact_cases`, `compact_eq_ok`, `compact_eq_error`: the outcomes of `compact`, wherever the log is.
* `Attached.put_ok`, `Attached.compact_ok`, `Attached.compact_error`: what `put` and `compact` leave.
* `Attached.openAt_eq`: opening the log anew gives what its bytes say.
* `Synced`: the log says what the store has in memory.
-/

namespace SinkAudit

open Workspace

namespace Store

/-! ## The path beside the log -/

/-- The last name of the path at which a log with the given name is written anew. -/
def tempName (k : String) : String := k ++ ".tmp"

theorem length_tempName (k : String) : (tempName k).length = k.length + 4 := by
  rw [tempName, String.length_append]
  rfl

/-- A name beside the log is no dot, since it is longer than those. -/
theorem proper_tempName (k : String) : Proper (tempName k) := by
  have hne : ∀ s : String, s.length < 4 → tempName k ≠ s := by
    rintro s hs rfl
    rw [length_tempName] at hs
    omega
  exact ⟨hne "." (by decide), hne "" (by decide), hne ".." (by decide)⟩

theorem tempName_ne (k : String) : tempName k ≠ k := by
  intro h
  have hlength := length_tempName k
  rw [h] at hlength
  omega

theorem notMem_tempName {k : String} (h : '/' ∉ k.toList) : '/' ∉ (tempName k).toList := by
  have htmp : ".tmp".toList = ['.', 't', 'm', 'p'] := rfl
  rw [tempName, String.toList_append, htmp, List.mem_append, not_or]
  exact ⟨h, by simp⟩

section Temp

variable {path k : String} {d : Place} {w : Workspace}

theorem tempPath_eq (h : Named path k) :
    tempPath path = Path.withFileName path (tempName k) := by
  rw [tempPath, h.fileName?_eq]
  rfl

theorem named_tempPath (h : Named path k) (hfault : pathFault? (tempPath path) = none) :
    Named (tempPath path) (tempName k) := by
  rw [tempPath_eq h] at hfault ⊢
  exact (h.sibling (notMem_tempName h.notMem_slash) (proper_tempName k) hfault).1

/-- The path beside the log stands in the directory of the log. -/
theorem standsIn_tempPath_iff (h : Named path k) (hfault : pathFault? (tempPath path) = none) :
    StandsIn w (tempPath path) (tempName k) d ↔ StandsIn w path k d := by
  have hnamed := named_tempPath h hfault
  rw [tempPath_eq h] at hfault hnamed ⊢
  obtain ⟨-, habs, hsolid⟩ :=
    h.sibling (notMem_tempName h.notMem_slash) (proper_tempName k) hfault
  constructor
  · intro hs
    have hdir := hs.dir
    rw [habs] at hdir
    exact ⟨h, (dirAt_congr hsolid).mp hdir⟩
  · intro hs
    refine ⟨hnamed, ?_⟩
    rw [habs]
    exact (dirAt_congr hsolid).mpr hs.dir

end Temp

/-! ## Sites -/

/-- The path beside the log can be written to: neither it nor its last name is too long. -/
structure TempFits (path k : String) : Prop where
  fault : pathFault? (tempPath path) = none
  short : (tempName k).utf8ByteSize ≤ maxName

/-- A directory of a well-formed workspace in which a log is kept. -/
structure Site (path k : String) (d : Place) (w : Workspace) : Prop where
  stands : StandsIn w path k d
  short : k.utf8ByteSize ≤ maxName
  wellFormed : w.WellFormed
  above : (Path.parent? path).getD "" = "" ∨ pathFault? ((Path.parent? path).getD "") = none
  log : w.Vacant (k :: d)
  temp : TempFits path k → w.Vacant (tempName k :: d)

section Sites

variable {path k : String} {d : Place} {w w' : Workspace}

/-- A change that keeps the directories, and leaves files or nothing at the two places. -/
theorem Site.change (h : Site path k d w) (hkeeps : Keeps w w') (hw : w'.WellFormed)
    (hlog : w'.Vacant (k :: d)) (htemp : TempFits path k → w'.Vacant (tempName k :: d)) :
    Site path k d w' :=
  ⟨h.stands.keeps hkeeps, h.short, hw, h.above, hlog, htemp⟩

theorem tempPlace_ne (k : String) (d : Place) : tempName k :: d ≠ k :: d :=
  fun h => tempName_ne k (List.cons.inj h).1

/-- A change at the place of the log leaves the text beside it. -/
theorem Site.puts (h : Site path k d w) {bytes : ByteArray} (hput : Puts (k :: d) bytes w w') :
    Site path k d w' := by
  obtain ⟨i, hi, -⟩ := hput.file
  refine h.change hput.keeps hput.wellFormed (Or.inr ⟨i, hi⟩) fun hfits => ?_
  rw [Vacant, hput.nodeAt?_eq (tempPlace_ne k d) (h.temp hfits)]
  exact h.temp hfits

/-- Opening the log for appending makes it, if it is missing, and changes nothing else. -/
theorem Site.openLog_ok (h : Site path k d w) :
    ∃ i w', openLog w path = (.ok i, w') ∧ Site path k d w' ∧
      w'.nodeAt? (k :: d) = some (.file i) ∧ (∀ j, w'.content j = w.content j) ∧
      (w.nodeAt? (k :: d) = none ∧ w.content i = ByteArray.empty ∨
        w.nodeAt? (k :: d) = some (.file i)) := by
  obtain ⟨es, hes⟩ := h.stands.exists_dir
  rcases h.log with hnone | ⟨i, hi⟩
  · have hchange := changesAt_newFile hes h.log
    have hfile := nodeAt?_newFile_self (k := k) hes
    have hsize : w.content w.contents.size = ByteArray.empty := by
      rw [Workspace.content, Array.getD_eq_getD_getElem?, Array.getElem?_size, Option.getD_none]
    refine ⟨w.contents.size, (w.newFile d k).2, ?_, ?_, hfile, content_newFile,
      Or.inl ⟨hnone, hsize⟩⟩
    · rw [openLog, h.stands.createDirs_eq h.above]
      dsimp only
      rw [h.stands.openFile_missing h.short hnone]
      rfl
    · refine h.change (hchange.keeps h.log) (wellFormed_newFile h.wellFormed hes h.log)
        (Or.inr ⟨_, hfile⟩) fun hfits => ?_
      rw [Vacant, hchange.nodeAt?_eq (tempPlace_ne k d) fun es => (h.temp hfits).ne_dir es]
      exact h.temp hfits
  · refine ⟨i, w, ?_, h, hi, fun _ => rfl, Or.inr hi⟩
    rw [openLog, h.stands.createDirs_eq h.above]
    dsimp only
    rw [h.stands.openFile_file h.short hi]

end Sites

/-! ## A store at its log -/

/-- The store that opening a log with the given bytes gives. -/
def ofBytes (path : String) (bytes : ByteArray) : Store :=
  match String.fromUTF8? bytes with
  | some log => ⟨some path, Log.entries log, none, Log.isTorn log, 0⟩
  | none => ⟨some path, [], none, false, 0⟩

theorem ofBytes_toUTF8 (path text : String) :
    ofBytes path text.toUTF8 = ⟨some path, Log.entries text, none, Log.isTorn text, 0⟩ := by
  rw [ofBytes, Text.fromUTF8?_toUTF8]

theorem ofBytes_path (path : String) (bytes : ByteArray) : (ofBytes path bytes).path = some path := by
  rw [ofBytes]
  split <;> rfl

theorem ofBytes_handle (path : String) (bytes : ByteArray) : (ofBytes path bytes).handle = none := by
  rw [ofBytes]
  split <;> rfl

theorem read_of_readText {w : Workspace} {path text : String} (h : w.readText path = .ok text) :
    w.read path = .ok text.toUTF8 := by
  rw [readText] at h
  split at h
  · exact absurd h (by simp)
  · rename_i bytes hbytes
    split at h
    · rename_i t ht
      rw [hbytes, Text.eq_toUTF8_of_fromUTF8? ht, ← Except.ok.inj h]
    · exact absurd h (by simp)

theorem openAt_of_read {w : Workspace} {path : String} {bytes : ByteArray}
    (h : w.read path = .ok bytes) : openAt w path = ofBytes path bytes := by
  rw [openAt, readText, h, ofBytes]
  dsimp only
  cases String.fromUTF8? bytes with
  | none => rfl
  | some t => rfl

theorem openAt_of_read_error {w : Workspace} {path : String} {e : FileFault}
    (h : w.read path = .error e) : openAt w path = ofBytes path ByteArray.empty := by
  have hempty : ofBytes path ByteArray.empty = ⟨some path, [], none, false, 0⟩ :=
    ofBytes_toUTF8 path ""
  rw [openAt, readText, h, hempty]

/-- The log of a store has the given bytes, and is what the store has open, if it has anything open.
A missing log has no bytes. -/
structure Attached (path k : String) (d : Place) (bytes : ByteArray) (s : Store) (w : Workspace) :
    Prop where
  site : Site path k d w
  path_eq : s.path = some path
  log : (w.nodeAt? (k :: d) = none ∧ bytes = ByteArray.empty ∧ s.handle = none) ∨
    ∃ i, w.nodeAt? (k :: d) = some (.file i) ∧ w.content i = bytes ∧
      ∀ j, s.handle = some j → j = i

section Steps

variable {path k : String} {d : Place} {bytes : ByteArray} {s : Store} {w : Workspace}

/-- What a store has in memory does not matter to its log. -/
theorem Attached.of_eq {s' : Store} (h : Attached path k d bytes s w) (hpath : s'.path = s.path)
    (hhandle : s'.handle = s.handle) : Attached path k d bytes s' w := by
  refine ⟨h.site, hpath.trans h.path_eq, ?_⟩
  rw [hhandle]
  exact h.log

/-- Opening the log anew gives what its bytes say. -/
theorem Attached.openAt_eq (h : Attached path k d bytes s w) : openAt w path = ofBytes path bytes := by
  rcases h.log with ⟨hnone, rfl, -⟩ | ⟨i, hi, rfl, -⟩
  · exact openAt_of_read_error (h.site.stands.read_missing h.site.short hnone)
  · exact openAt_of_read (h.site.stands.read_file h.site.short hi)

theorem Attached.reopen (h : Attached path k d bytes s w) :
    Attached path k d bytes (openAt w path) w := by
  rw [h.openAt_eq]
  refine ⟨h.site, ofBytes_path path bytes, ?_⟩
  rw [ofBytes_handle]
  rcases h.log with ⟨hnone, hempty, -⟩ | ⟨i, hi, hcontent, -⟩
  · exact Or.inl ⟨hnone, hempty, rfl⟩
  · exact Or.inr ⟨i, hi, hcontent, fun j hj => absurd hj (by simp)⟩

/-- The log can be appended to, whether it is open or not. -/
theorem Attached.writer_ok (h : Attached path k d bytes s w) :
    ∃ i w', s.writer w path = (.ok i, w') ∧ Site path k d w' ∧
      w'.nodeAt? (k :: d) = some (.file i) ∧ w'.content i = bytes := by
  rw [writer]
  rcases h.log with ⟨hnone, hbytes, hhandle⟩ | ⟨i, hi, hcontent, hhandle⟩
  · obtain ⟨i, w', hopen, hsite, hfile, hcontents, ⟨-, hempty⟩ | hi⟩ := h.site.openLog_ok
    · rw [hhandle]
      refine ⟨i, w', hopen, hsite, hfile, ?_⟩
      rw [hcontents, hempty, hbytes]
    · rw [hnone] at hi
      exact absurd hi (by simp)
  · cases hs : s.handle with
    | some j =>
      rw [hhandle j hs]
      exact ⟨i, w, rfl, h.site, hi, hcontent⟩
    | none =>
      obtain ⟨j, w', hopen, hsite, hfile, hcontents, ⟨hnone, -⟩ | hj⟩ := h.site.openLog_ok
      · rw [hi] at hnone
        exact absurd hnone (by simp)
      · rw [hi, Option.some.injEq, Node.file.injEq] at hj
        subst hj
        refine ⟨i, w', hopen, hsite, hfile, ?_⟩
        rw [hcontents, hcontent]

theorem put_of_writer {i : Nat} {w' : Workspace} (hpath : s.path = some path)
    (hwriter : s.writer w path = (.ok i, w')) (sig : String) (v : Verdict) :
    s.put w sig v =
      (.ok (), ⟨some path, s.entries.insert sig v, some i, false, s.appended + 1⟩,
        w'.append i (Log.addition s.torn sig v).toUTF8) := by
  obtain ⟨p, es, handle, torn, n⟩ := s
  obtain rfl : p = some path := hpath
  have hwriter' : (⟨some path, es.insert sig v, handle, torn, n⟩ : Store).writer w path =
      (.ok i, w') := hwriter
  rw [put]
  dsimp only
  rw [hwriter']
  rfl

theorem put_of_writer_cut {i : Nat} {w' : Workspace} (hpath : s.path = some path)
    (hwriter : s.writer w path = (.ok i, w')) (sig : String) (v : Verdict) (kept : Nat)
    (fault : FileFault) :
    s.put w sig v (.cut kept fault) =
      (.error (.file fault), ⟨some path, s.entries.insert sig v, some i, s.torn, s.appended⟩,
        w'.append i ((Log.addition s.torn sig v).toUTF8.extract 0 kept)) := by
  obtain ⟨p, es, handle, torn, n⟩ := s
  obtain rfl : p = some path := hpath
  have hwriter' : (⟨some path, es.insert sig v, handle, torn, n⟩ : Store).writer w path =
      (.ok i, w') := hwriter
  rw [put]
  dsimp only
  rw [hwriter']
  rfl

/-- A store that has the log open is attached to it with what is appended. -/
theorem attached_append {i : Nat} (hsite : Site path k d w)
    (hfile : w.nodeAt? (k :: d) = some (.file i)) (hpath : s.path = some path)
    (hhandle : s.handle = some i) (more : ByteArray) :
    Attached path k d (w.content i ++ more) s (w.append i more) := by
  have hput := puts_setContent hsite.wellFormed hfile (w.content i ++ more)
  refine ⟨hsite.puts hput, hpath, ?_⟩
  obtain ⟨j, hj, hbytes⟩ := hput.file
  obtain rfl : i = j := by
    rw [nodeAt?_setContent, hfile, Option.some.injEq, Node.file.injEq] at hj
    exact hj
  refine Or.inr ⟨i, hj, hbytes, fun j hj => ?_⟩
  rw [hhandle] at hj
  exact (Option.some.inj hj).symm

/-- Keeping a verdict adds a record to the log. -/
theorem Attached.put_ok (h : Attached path k d bytes s w) (sig : String) (v : Verdict) :
    ∃ i w', s.put w sig v =
        (.ok (), ⟨some path, s.entries.insert sig v, some i, false, s.appended + 1⟩, w') ∧
      Attached path k d (bytes ++ (Log.addition s.torn sig v).toUTF8)
        ⟨some path, s.entries.insert sig v, some i, false, s.appended + 1⟩ w' := by
  obtain ⟨i, w₁, hwriter, hsite, hfile, rfl⟩ := h.writer_ok
  exact ⟨i, _, put_of_writer h.path_eq hwriter sig v, attached_append hsite hfile rfl rfl _⟩

/-- Where what is appended is cut off, the first part of a record is added to the log. -/
theorem Attached.put_cut (h : Attached path k d bytes s w) (sig : String) (v : Verdict) (kept : Nat)
    (fault : FileFault) :
    ∃ i w', s.put w sig v (.cut kept fault) =
        (.error (.file fault), ⟨some path, s.entries.insert sig v, some i, s.torn, s.appended⟩, w') ∧
      Attached path k d (bytes ++ (Log.addition s.torn sig v).toUTF8.extract 0 kept)
        ⟨some path, s.entries.insert sig v, some i, s.torn, s.appended⟩ w' := by
  obtain ⟨i, w₁, hwriter, hsite, hfile, rfl⟩ := h.writer_ok
  exact ⟨i, _, put_of_writer_cut h.path_eq hwriter sig v kept fault,
    attached_append hsite hfile rfl rfl _⟩

/-- Where the file beside the log cannot be opened, writing the log anew fails and changes nothing. -/
theorem compact_of_write_error {e : FileFault} {saving : Saving} (hpath : s.path = some path)
    (hwrite : w.write (tempPath path) (saving.part (Log.text s.entries).toUTF8) = .error e) :
    s.compact w saving = (.error (.file e), s, w) := by
  rw [compact, hpath]
  dsimp only
  rw [save_error hwrite]

theorem compact_of_rename {w₁ w₂ : Workspace} (hpath : s.path = some path)
    (hwrite : w.write (tempPath path) (Log.text s.entries).toUTF8 = .ok w₁)
    (hrename : w₁.rename (tempPath path) path = .ok w₂) :
    s.compact w = (.ok (), { s with handle := none, torn := false, appended := 0 }, w₂) := by
  have hsave : w.save (tempPath path) (Log.text s.entries).toUTF8 .done = (.ok (), w₁) :=
    save_ok hwrite
  rw [compact, hpath]
  dsimp only
  rw [hsave]
  dsimp only
  rw [hrename]

/-- The outcomes of writing the log anew: the file beside the log cannot be opened, what is saved there is
cut off, it cannot be moved, or all goes well. -/
theorem compact_cases (hpath : s.path = some path) (w : Workspace) (saving : Saving) :
    (∃ e, w.write (tempPath path) (saving.part (Log.text s.entries).toUTF8) = .error e ∧
        s.compact w saving = (.error (.file e), s, w)) ∨
      ∃ w₁, w.write (tempPath path) (saving.part (Log.text s.entries).toUTF8) = .ok w₁ ∧
        ((∃ kept e, saving = .cut kept e ∧ s.compact w saving = (.error (.file e), s, w₁)) ∨
          saving = .done ∧
            ((∃ e, w₁.rename (tempPath path) path = .error e ∧
                s.compact w saving = (.error (.file e), s, w₁)) ∨
              ∃ w₂, w₁.rename (tempPath path) path = .ok w₂ ∧ s.compact w saving =
                (.ok (), { s with handle := none, torn := false, appended := 0 }, w₂))) := by
  cases hwrite : w.write (tempPath path) (saving.part (Log.text s.entries).toUTF8) with
  | error e => exact Or.inl ⟨e, rfl, compact_of_write_error hpath hwrite⟩
  | ok w₁ =>
    refine Or.inr ⟨w₁, rfl, ?_⟩
    rw [compact, hpath]
    dsimp only
    rw [save_ok hwrite]
    cases saving with
    | cut kept e => exact Or.inl ⟨kept, e, rfl, rfl⟩
    | done =>
      refine Or.inr ⟨rfl, ?_⟩
      rw [Saving.result]
      dsimp only
      cases w₁.rename (tempPath path) path with
      | error e => exact Or.inl ⟨e, rfl, rfl⟩
      | ok w₂ => exact Or.inr ⟨w₂, rfl, rfl⟩

theorem compact_eq_ok {s' : Store} {w' : Workspace} {saving : Saving} (hpath : s.path = some path)
    (h : s.compact w saving = (.ok (), s', w')) :
    ∃ w₁, w.write (tempPath path) (Log.text s.entries).toUTF8 = .ok w₁ ∧
      w₁.rename (tempPath path) path = .ok w' ∧
      s' = { s with handle := none, torn := false, appended := 0 } := by
  rcases compact_cases hpath w saving with ⟨e, -, hc⟩ | ⟨w₁, hwrite, ⟨kept, e, -, hc⟩ | ⟨rfl, hdone⟩⟩
  · rw [h] at hc
    cases hc
  · rw [h] at hc
    cases hc
  · rcases hdone with ⟨e, -, hc⟩ | ⟨w₂, hrename, hc⟩
    · rw [h] at hc
      cases hc
    · rw [h] at hc
      cases hc
      exact ⟨w₁, hwrite, hrename, rfl⟩

/-- Where writing the log anew fails, the store is as it was, and nothing has happened; or what is saved
beside the log is cut off, or it is there and cannot be moved. -/
theorem compact_eq_error {s' : Store} {w' : Workspace} {saving : Saving} {e : Error}
    (hpath : s.path = some path) (h : s.compact w saving = (.error e, s', w')) :
    s' = s ∧ (w' = w ∨
      (∃ kept fault, saving = .cut kept fault ∧
        w.write (tempPath path) ((Log.text s.entries).toUTF8.extract 0 kept) = .ok w') ∨
      w.write (tempPath path) (Log.text s.entries).toUTF8 = .ok w' ∧
        ∃ fault, w'.rename (tempPath path) path = .error fault) := by
  rcases compact_cases hpath w saving with ⟨f, -, hc⟩ | ⟨w₁, hwrite, ⟨kept, f, rfl, hc⟩ | ⟨rfl, hdone⟩⟩
  · rw [h] at hc
    cases hc
    exact ⟨rfl, Or.inl rfl⟩
  · rw [h] at hc
    cases hc
    exact ⟨rfl, Or.inr (Or.inl ⟨kept, f, rfl, hwrite⟩)⟩
  · rcases hdone with ⟨f, hrename, hc⟩ | ⟨w₂, -, hc⟩
    · rw [h] at hc
      cases hc
      exact ⟨rfl, Or.inr (Or.inr ⟨hwrite, f, hrename⟩)⟩
    · rw [h] at hc
      cases hc

/-- What writing the log anew leaves of a store. -/
theorem compact_store (s : Store) (w : Workspace) (saving : Saving) :
    (s.compact w saving).2.1 = s ∨
      (s.compact w saving).2.1 = { s with handle := none, torn := false, appended := 0 } := by
  rcases Option.eq_none_or_eq_some s.path with hpath | ⟨path, hpath⟩
  · rw [compact, hpath]
    exact Or.inl rfl
  · rcases hcompact : s.compact w saving with ⟨e | u, s', w'⟩
    · exact Or.inl (compact_eq_error hpath hcompact).1
    · obtain ⟨-, -, -, rfl⟩ := compact_eq_ok hpath hcompact
      exact Or.inr rfl

/-- Writing the log anew leaves one record for each signature. -/
theorem Attached.compact_ok (h : Attached path k d bytes s w) (hfits : TempFits path k) :
    ∃ w', s.compact w = (.ok (), { s with handle := none, torn := false, appended := 0 }, w') ∧
      w'.read path = .ok (Log.text s.entries).toUTF8 ∧
      Attached path k d (Log.text s.entries).toUTF8
        { s with handle := none, torn := false, appended := 0 } w' := by
  have hnamed := h.site.stands.toNamed
  have htemp := (standsIn_tempPath_iff hnamed hfits.fault).mpr h.site.stands
  obtain ⟨w₁, hwrite, hput⟩ := htemp.write_ok hfits.short h.site.wellFormed (h.site.temp hfits)
    (Log.text s.entries).toUTF8
  obtain ⟨i, hi, hcontent⟩ := hput.file
  have hlog : w₁.Vacant (k :: d) := by
    rw [Vacant, hput.nodeAt?_eq (tempPlace_ne k d).symm h.site.log]
    exact h.site.log
  obtain ⟨w₂, hrename, hwf, hkeeps, hto, hfrom, hcontents⟩ :=
    (htemp.keeps hput.keeps).rename_ok (h.site.stands.keeps hput.keeps) hfits.short h.site.short
      (tempName_ne k) hput.wellFormed hi hlog
  have hsite : Site path k d w₂ :=
    h.site.change (hput.keeps.trans hkeeps) hwf (Or.inr ⟨i, hto⟩) fun _ => Or.inl hfrom
  have hcontent₂ : w₂.content i = (Log.text s.entries).toUTF8 := by
    rw [Workspace.content, hcontents]
    exact hcontent
  refine ⟨w₂, ?_, ?_, hsite, h.path_eq, Or.inr ⟨i, hto, hcontent₂, fun j hj => absurd hj (by simp)⟩⟩
  · exact compact_of_rename h.path_eq hwrite hrename
  · rw [hsite.stands.read_file hsite.short hto, hcontent₂]

/-- Where the path beside the log is too long, nothing can be written there. -/
theorem Site.write_error (h : Site path k d w) (hfits : ¬TempFits path k) (bytes : ByteArray) :
    ∃ e, w.write (tempPath path) bytes = .error e := by
  obtain ⟨e, he⟩ : ∃ e, w.resolve .create (tempPath path) = .error e := by
    cases hfault : pathFault? (tempPath path) with
    | some e => exact ⟨e, by rw [resolve, hfault]⟩
    | none =>
      have htemp := (standsIn_tempPath_iff h.stands.toNamed hfault).mpr h.stands
      exact ⟨.nameTooLong, htemp.resolve_long (fun hshort => hfits ⟨hfault, hshort⟩) .create⟩
  exact ⟨e, Workspace.write_error he bytes⟩

/-- Where the path beside the log is too long, writing the log anew fails and changes nothing. -/
theorem Attached.compact_error (h : Attached path k d bytes s w) (hfits : ¬TempFits path k) :
    ∃ e, s.compact w = (.error e, s, w) := by
  obtain ⟨e, he⟩ := h.site.write_error hfits (Log.text s.entries).toUTF8
  exact ⟨.file e, compact_of_write_error h.path_eq he⟩

/-- What is written beside the log does not matter to the log. -/
theorem Attached.write_beside (h : Attached path k d bytes s w) {w₁ : Workspace} {beside : ByteArray}
    (hwrite : w.write (tempPath path) beside = .ok w₁) : Attached path k d bytes s w₁ := by
  have hfits : TempFits path k := by
    refine Classical.byContradiction fun hlong => ?_
    obtain ⟨e, he⟩ := h.site.write_error hlong beside
    rw [hwrite] at he
    cases he
  have htemp := (standsIn_tempPath_iff h.site.stands.toNamed hfits.fault).mpr h.site.stands
  obtain ⟨w₂, hok, hput⟩ := htemp.write_ok hfits.short h.site.wellFormed (h.site.temp hfits) beside
  obtain rfl : w₁ = w₂ := Except.ok.inj (hwrite.symm.trans hok)
  have hsame := hput.nodeAt?_eq (tempPlace_ne k d).symm h.site.log
  obtain ⟨j, hj, -⟩ := hput.file
  refine ⟨h.site.change hput.keeps hput.wellFormed ?_ fun _ => Or.inr ⟨j, hj⟩, h.path_eq, ?_⟩
  · rw [Vacant, hsame]
    exact h.site.log
  · rw [hsame]
    rcases h.log with hnone | ⟨i, hi, hcontent, hhandle⟩
    · exact Or.inl hnone
    · exact Or.inr ⟨i, hi, (hput.content _ i (tempPlace_ne k d).symm hi).trans hcontent, hhandle⟩

end Steps

/-! ## What a store and its log have in common -/

/-- The log of a store says what the store has in memory.  The text of a missing log is empty. -/
structure Synced (path k : String) (d : Place) (text : String) (s : Store) (w : Workspace) :
    Prop where
  site : Site path k d w
  path_eq : s.path = some path
  entries : s.entries = Log.entries text
  torn : s.torn = Log.isTorn text
  log : (w.nodeAt? (k :: d) = none ∧ text = "" ∧ s.handle = none) ∨
    ∃ i, w.nodeAt? (k :: d) = some (.file i) ∧ w.content i = text.toUTF8 ∧
      ∀ j, s.handle = some j → j = i

section Agreement

variable {path k text : String} {d : Place} {s : Store} {w : Workspace}

theorem Synced.attached (h : Synced path k d text s w) : Attached path k d text.toUTF8 s w := by
  refine ⟨h.site, h.path_eq, ?_⟩
  rcases h.log with ⟨hnone, rfl, hhandle⟩ | hfile
  · exact Or.inl ⟨hnone, rfl, hhandle⟩
  · exact Or.inr hfile

theorem Attached.synced (h : Attached path k d text.toUTF8 s w)
    (hentries : s.entries = Log.entries text) (htorn : s.torn = Log.isTorn text) :
    Synced path k d text s w := by
  refine ⟨h.site, h.path_eq, hentries, htorn, ?_⟩
  rcases h.log with ⟨hnone, hempty, hhandle⟩ | hfile
  · have htext : text = "" := String.toByteArray_inj.mp hempty
    exact Or.inl ⟨hnone, htext, hhandle⟩
  · exact Or.inr hfile

end Agreement

end Store
end SinkAudit

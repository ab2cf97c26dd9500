import SinkAudit.Proofs.Store.PutOrder
import SinkAudit.Proofs.Workspace.Replacement

/-!
# Writing the log anew

`compact` writes the log beside the old one and moves it into its place.  It can fail when the file beside
the log is opened, in the middle of what is written to it, when that is synced, and when it is moved; and it
may be called on a store that has any history, failed writes included, in a workspace that was changed by
others in the meantime.

If it fails, then nothing has happened to the store, nor to any entry of the workspace but the one beside the
log.  The log may be a link that leads there, though.  Then what is read at the path is gone as soon as that
file is opened, and a fault in writing leaves what was written so far in its place.

If it succeeds, then the entry that the path names is a file with one record for each signature, in the
order of the bytes of the signatures; so the bytes depend on the map in memory alone.  From then on the store
is attached to that file, except if the way to the log goes through the link that was replaced
(`Workspace.passesItself`): then the path leads nowhere, and all that was written is lost.

* `Reached`: a store with some history; `Reached.sorted`: its entries are in order.
* `Canonical`: the bytes of a log that was written anew.
* `replaced_of_write`: the second step succeeds, if the path does not name a directory.
* `look_of_write`: what the first step leaves at the path; `look_of_rename_error`, `replaced_of_rename`:
  what the two outcomes of the second leave.
* `Plain.openAt_compact`: where no link is in the way, a log that has been written anew says what was in
  memory.
* `Attached.putAll_file`: what is put later is appended to the file that is at the path.
* `compact_atomic`: the two outcomes together.
-/

namespace SinkAudit

open Workspace

/-! ## What is written -/

namespace Entries

/-- In an ordered list, the entries are what is found. -/
theorem mem_iff_get? {sig : String} {v : Verdict} :
    ∀ {es : Entries}, es.Sorted → ((sig, v) ∈ es ↔ es.get? sig = some v)
  | [], _ => iff_of_false (by simp) (by simp)
  | (k, u) :: es, h => by
    obtain ⟨hlt, hes⟩ := sorted_cons.mp h
    rw [get?_cons, List.mem_cons, mem_iff_get? hes, Prod.mk.injEq]
    by_cases hk : k = sig
    · subst hk
      rw [if_pos rfl, get?_eq_none_of_lt hlt]
      simp [eq_comm]
    · rw [if_neg hk]
      simp [Ne.symm hk]

end Entries

namespace Log

/-- The rows of a log that was written anew. -/
theorem rows_text : ∀ es : Entries, Text.rows (text es) = es.map fun e => (recordJson e.1 e.2).compact
  | [] => rfl
  | (sig, v) :: es => by
    rw [text, Text.rows_append_of_closed (closed_line sig v), rows_line, rows_text es]
    rfl

end Log

namespace Store

/-- The bytes of a log that was written anew: a row with a line feed for each entry, in the order of the
bytes of the signatures, and an entry for each signature that has a verdict. -/
structure Canonical (es : Entries) (bytes : ByteArray) : Prop where
  bytes_eq : bytes = (Log.text es).toUTF8
  rows : Text.rows (Log.text es) = es.map fun e => (Log.recordJson e.1 e.2).compact
  ascending : (es.map fun e => e.1.toUTF8.data.toList).Pairwise (· < ·)
  entry : ∀ sig v, (sig, v) ∈ es ↔ es.get? sig = some v

theorem canonical_text {es : Entries} (h : es.Sorted) : Canonical es (Log.text es).toUTF8 := by
  refine ⟨rfl, Log.rows_text es, ?_, fun sig v => Entries.mem_iff_get? h⟩
  rw [List.pairwise_map]
  exact h.imp fun hlt => Text.toUTF8_lt hlt

/-! ## Stores with a history -/

/-- A store that was opened and used, whatever the workspace was at each step and whether or not what was
written could be saved. -/
inductive Reached : Store → Prop
  | openAt (w : Workspace) (path : String) : Reached (openAt w path)
  | put {s : Store} (h : Reached s) (w : Workspace) (sig : String) (v : Verdict) (saving : Saving) :
    Reached (s.put w sig v saving).2.1
  | compact {s : Store} (h : Reached s) (w : Workspace) (saving : Saving) :
    Reached (s.compact w saving).2.1
  | flush {s : Store} (h : Reached s) (w : Workspace) (saving : Saving) :
    Reached (s.flush w saving).2.1

section Steps

variable {path k : String} {d : Place} {s : Store} {w w' w₁ w₂ : Workspace}

/-- The entries of a store are in order, whatever became of its log. -/
theorem Reached.sorted (h : Reached s) : s.entries.Sorted := by
  induction h with
  | openAt w path =>
    rw [Store.openAt]
    split
    · exact Log.sorted_entries _
    · exact Entries.sorted_nil
  | @put s _ w sig v saving ih =>
    cases henabled : s.isEnabled with
    | true =>
      rw [entries_put henabled]
      exact Entries.sorted_insert sig v ih
    | false =>
      rw [put_of_not_isEnabled henabled]
      exact ih
  | compact _ w saving ih =>
    rw [entries_compact]
    exact ih
  | flush _ w saving ih =>
    rw [entries_flush]
    exact ih

/-! ## The two steps -/

/-- The path beside a log ends with a name, whatever the path of the log ends with. -/
theorem named_tempPath_of_write {bytes : ByteArray} (hwrite : w.write (tempPath path) bytes = .ok w₁) :
    Named (tempPath path) (tempName ((Path.fileName? path).getD "cache")) := by
  have hfault : pathFault? (tempPath path) = none := by
    cases hfault : pathFault? (tempPath path) with
    | none => rfl
    | some e =>
      have hresolve : w.resolve .create (tempPath path) = .error e := by rw [resolve, hfault]
      rw [write_error hresolve] at hwrite
      cases hwrite
  refine named_withFileName (notMem_tempName ?_) (proper_tempName _) hfault
  cases hname : Path.fileName? path with
  | none => exact (by decide : '/' ∉ "cache".toList)
  | some k => exact notMem_of_fileName? hname

/-- The name of a log is shorter than the one beside it. -/
theorem TempFits.short_name (h : TempFits path k) : k.utf8ByteSize ≤ maxName := by
  have hshort := h.short
  rw [tempName, String.utf8ByteSize_append] at hshort
  omega

/-- The entry beside the log is none that the path of the log names. -/
theorem not_namesAt_tempName :
    ¬w.NamesAt path (tempName ((Path.fileName? path).getD "cache") :: d) := by
  intro hlog
  obtain ⟨hlast, hproper⟩ := hlog.getLast?_eq
  -- The last name of the path would be that name with something appended.
  have hname := fileName?_of_getLast? hlast hproper
  cases hfile : Path.fileName? path with
  | none =>
    rw [hfile] at hname
    cases hname
  | some k =>
    rw [hfile, Option.getD_some, Option.some.injEq] at hname
    exact tempName_ne k hname.symm

section Written

variable {bytes : ByteArray} (hw : w.WellFormed)
  (htemp : w.namesLink (tempPath path) = false) (hwrite : w.write (tempPath path) bytes = .ok w₁)

include hw htemp hwrite

/-- Where the first step has succeeded, the second succeeds as well, if the path names something other
than a directory. -/
theorem replaced_of_write (hd : StandsIn w path k d)
    (hdir : ∀ es, w.nodeAt? (k :: d) ≠ some (.dir es)) :
    TempFits path k ∧ w.Vacant (tempName k :: d) ∧
      ∃ w₂, w₁.rename (tempPath path) path = .ok w₂ ∧ Replaced (k :: d) (tempName k :: d) bytes w w₂ := by
  have hname := named_tempPath_of_write hwrite
  rw [hd.toNamed.fileName?_eq, Option.getD_some] at hname
  obtain ⟨d', hd', hshort, hvac, hputs, -⟩ := hname.puts_of_write hw htemp hwrite
  obtain rfl := hd.eq_of_standsIn ((standsIn_tempPath_iff hd.toNamed hname.fault).mp hd')
  obtain ⟨i, hi, hcontent⟩ := hputs.file
  have hfits : TempFits path k := ⟨hname.fault, hshort⟩
  have hdir₁ : ∀ es, w₁.nodeAt? (k :: d) ≠ some (.dir es) := by
    intro es hes
    obtain ⟨fs, hfs⟩ := (hputs.alike (k :: d) (tempPlace_ne k d).symm).symm.exists_dir hes
    exact hdir fs hfs
  obtain ⟨w₂, hrename, hwf, hhome, hto, hfrom, hcontents, halike⟩ :=
    (hd'.keeps hputs.keeps).rename_replaces (hd.keeps hputs.keeps) hshort hfits.short_name
      (tempName_ne k) hputs.wellFormed hi hdir₁
  have hsame : ∀ j, w₂.content j = w₁.content j := fun j => by
    rw [Workspace.content, hcontents, Workspace.content]
  refine ⟨hfits, hvac, w₂, hrename, hwf, hhome.trans hputs.keeps.home,
    ⟨i, hto, (hsame i).trans hcontent, fun r j hr hj => ?_⟩, hfrom, fun r hrp hrq => ?_,
    fun r j hr hj => (hsame j).trans (hputs.content r j hr hj)⟩
  · -- In the workspace between the two steps, the number of the new file is at its place only.
    rintro rfl
    have hj₁ : w₁.nodeAt? r = some (.file j) := by
      rw [hputs.nodeAt?_eq hr (Or.inr ⟨j, hj⟩), hj]
    exact hr (hputs.wellFormed.distinct r _ j hj₁ hi)
  · exact (hputs.alike r hrq).trans (halike r hrq hrp)

/-- Where the second step fails, what is seen at the path is as it was before the first. -/
theorem look_of_rename_error {e : FileFault} (hrename : w₁.rename (tempPath path) path = .error e) :
    w₁.look path = w.look path := by
  obtain ⟨d', -, -, -, hputs, hback⟩ :=
    (named_tempPath_of_write hwrite).puts_of_write hw htemp hwrite
  have hdir : ∀ k d, StandsIn w path k d → ∃ es, w.nodeAt? (k :: d) = some (.dir es) := by
    intro k d hd
    refine Classical.byContradiction fun hnone => ?_
    obtain ⟨-, -, w₂, hok, -⟩ :=
      replaced_of_write hw htemp hwrite hd fun es hes => hnone ⟨es, hes⟩
    rw [hrename] at hok
    cases hok
  have hdir₁ : ∀ k d, StandsIn w₁ path k d → ∃ es, w₁.nodeAt? (k :: d) = some (.dir es) := by
    intro k d hd
    obtain ⟨es, hes⟩ := hdir k d (hd.keeps hback)
    exact hputs.keeps.dir _ es hes
  rw [look_eq_of_dir fun p n h => dir_of_resolve hdir₁ h, look_eq_of_dir fun p n h => dir_of_resolve hdir h,
    isDir_eq_of_keeps hputs.keeps hback]

/-- The first step changes what is seen beside the log only, and not at the log. -/
theorem namesAt_of_sight?_ne {p : Place} (hp : w₁.sight? p ≠ w.sight? p) :
    w.NamesAt (tempPath path) p ∧ ¬w.NamesAt path p := by
  obtain ⟨d, hd, -, -, hputs, -⟩ := (named_tempPath_of_write hwrite).puts_of_write hw htemp hwrite
  obtain rfl : p = tempName ((Path.fileName? path).getD "cache") :: d :=
    Decidable.byContradiction fun hne => hp (hputs.sight?_eq hw hne)
  exact ⟨⟨d, _, hd.resolveParent_eq, rfl⟩, not_namesAt_tempName⟩

/-- The first step changes what is seen at the path only if the path names a link that leads beside the
log. -/
theorem look_of_write :
    w₁.look path = w.look path ∨
      ∃ p, w.NamesAt (tempPath path) p ∧ w.namesLink path = true ∧ w.look path = w.sight? p ∧
        w₁.look path = some (.file bytes) := by
  obtain ⟨d', hd', -, hvac, hputs, hback⟩ :=
    (named_tempPath_of_write hwrite).puts_of_write hw htemp hwrite
  rcases hputs.look_eq hvac hback hw path with hsame | ⟨hbefore, hafter, i, hresolve⟩
  · exact Or.inl hsame
  · exact Or.inr ⟨_, ⟨d', _, hd'.resolveParent_eq, rfl⟩,
      hback.namesLink_of_file hresolve not_namesAt_tempName, hbefore, hafter⟩

/-- What the two steps leave. -/
theorem replaced_of_rename (hrename : w₁.rename (tempPath path) path = .ok w₂) :
    ∃ k d, StandsIn w path k d ∧ (∀ es, w.nodeAt? (k :: d) ≠ some (.dir es)) ∧ TempFits path k ∧
      w.Vacant (tempName k :: d) ∧ Replaced (k :: d) (tempName k :: d) bytes w w₂ := by
  obtain ⟨d', -, -, -, hputs, hback⟩ :=
    (named_tempPath_of_write hwrite).puts_of_write hw htemp hwrite
  obtain ⟨-, -, d, k, -, -, hparent, -, ⟨-, hslash⟩, -, hdir, -⟩ := rename_eq_ok hrename
  obtain ⟨hfault, hnames, hk, hat⟩ := resolveParent_eq_name hparent
  have hlast : (route path).names.getLast? = some k := by rw [hnames, List.getLast?_concat]
  have hd : StandsIn w path k d := ⟨⟨hfault, hslash, hlast, hk⟩, hat.keeps hback⟩
  have hdir' : ∀ es, w.nodeAt? (k :: d) ≠ some (.dir es) := by
    intro es hes
    obtain ⟨fs, hfs⟩ := hputs.keeps.dir _ es hes
    exact hdir fs hfs
  obtain ⟨hfits, hvac, w₂', hok, hreplaced⟩ := replaced_of_write hw htemp hwrite hd hdir'
  rw [hrename, Except.ok.injEq] at hok
  exact ⟨k, d, hd, hdir', hfits, hvac, hok ▸ hreplaced⟩

end Written

/-! ## The store after that -/

/-- A store that has nothing open is attached to the file that was moved to its path. -/
theorem attached_of_replaced {bytes : ByteArray}
    (h : Replaced (k :: d) (tempName k :: d) bytes w w₂) (hd : StandsIn w₂ path k d)
    (hk : k.utf8ByteSize ≤ maxName) (hpath : s.path = some path) (hhandle : s.handle = none) :
    Attached path k d bytes s w₂ := by
  obtain ⟨i, hi, hcontent, -⟩ := h.file
  refine ⟨⟨hd, hk, h.wellFormed, pathFault?_parent hd.fault, Or.inr ⟨i, hi⟩, fun _ => Or.inl h.gone⟩,
    hpath, Or.inr ⟨i, hi, hcontent, fun j hj => ?_⟩⟩
  rw [hhandle] at hj
  cases hj

theorem Attached.read_file {bytes : ByteArray} (h : Attached path k d bytes s w) {i : Nat}
    (hi : w.nodeAt? (k :: d) = some (.file i)) : w.read path = .ok bytes := by
  rcases h.log with ⟨hnone, -, -⟩ | ⟨i', hi', hcontent, -⟩
  · rw [hi] at hnone
    cases hnone
  · rw [h.site.stands.read_file h.site.short hi', hcontent]

/-- A verdict that is put is appended to the file that is at the path. -/
theorem Attached.put_file {bytes : ByteArray} (h : Attached path k d bytes s w) {i : Nat}
    (hi : w.nodeAt? (k :: d) = some (.file i)) (sig : String) (v : Verdict) :
    s.put w sig v =
      (.ok (), ⟨some path, s.entries.insert sig v, some i, false, s.appended + 1⟩,
        w.append i (Log.addition s.torn sig v).toUTF8) := by
  refine put_of_writer h.path_eq ?_ sig v
  rw [writer]
  cases hhandle : s.handle with
  | none =>
    dsimp only
    rw [openLog, h.site.stands.createDirs_eq h.site.above]
    dsimp only
    rw [h.site.stands.openFile_file h.site.short hi]
  | some j =>
    rcases h.log with ⟨hnone, -, -⟩ | ⟨i', hi', -, hopen⟩
    · rw [hi] at hnone
      cases hnone
    · rw [hi, Option.some.injEq, Node.file.injEq] at hi'
      rw [hopen j hhandle, hi']

/-- What is put in turn is appended to the file that is at the path, and to no other. -/
theorem Attached.putAll_file :
    ∀ (l : List (String × Verdict)) {bytes : ByteArray} {s : Store} {w : Workspace} {i : Nat},
      Attached path k d bytes s w → s.torn = false → w.nodeAt? (k :: d) = some (.file i) →
      (Store.putAll l (s, w)).2.read path = .ok (bytes ++ (Log.text l).toUTF8) ∧
        ∀ j, j ≠ i → (Store.putAll l (s, w)).2.content j = w.content j
  | [], bytes, s, w, i, h, _, hi => by
    have hnone : bytes ++ (Log.text []).toUTF8 = bytes := ByteArray.append_empty
    rw [hnone, Store.putAll]
    exact ⟨h.read_file hi, fun _ _ => rfl⟩
  | (sig, v) :: l, bytes, s, w, i, h, htorn, hi => by
    have hline : Log.addition false sig v = Log.line sig v := String.empty_append
    have hput := h.put_file hi sig v
    obtain ⟨i', w', hput', hattached⟩ := h.put_ok sig v
    rw [hput, Prod.mk.injEq, Prod.mk.injEq] at hput'
    obtain ⟨-, hstore, rfl⟩ := hput'
    rw [htorn, hline, ← hstore] at hattached
    obtain ⟨hread, hcontent⟩ := Attached.putAll_file l hattached rfl hi
    rw [Store.putAll, hput, htorn, hline, Log.text, Text.toUTF8_append, ← ByteArray.append_assoc]
    refine ⟨hread, fun j hj => (hcontent j hj).trans ?_⟩
    exact content_setContent_of_ne hj _

/-- Unless the path passes itself, the store is attached to the new file, and all the files of the workspace
before, but for the one beside the log, are other files with their contents. -/
theorem exists_attached (hpath : s.path = some path) (hw : w.WellFormed)
    (htemp : w.namesLink (tempPath path) = false)
    (hwrite : w.write (tempPath path) (Log.text s.entries).toUTF8 = .ok w₁)
    (hrename : w₁.rename (tempPath path) path = .ok w₂) (hpass : w.passesItself path = false) :
    ∃ k d i, TempFits path k ∧ w₂.nodeAt? (k :: d) = some (.file i) ∧
      Attached path k d (Log.text s.entries).toUTF8
        { s with handle := none, torn := false, appended := 0 } w₂ ∧
      ∀ p j, ¬w.NamesAt (tempPath path) p → w.nodeAt? p = some (.file j) →
        j ≠ i ∧ w₂.content j = w.content j := by
  obtain ⟨k, d, hd, hdir, hfits, hvac, hreplaced⟩ := replaced_of_rename hw htemp hwrite hrename
  have hk := hfits.short_name
  have hd₂ := hreplaced.standsIn hd hk hvac hdir hpass
  obtain ⟨i, hi, -, hother⟩ := hreplaced.file
  refine ⟨k, d, i, hfits, hi, attached_of_replaced hreplaced hd₂ hk hpath rfl, fun p j hp hj => ?_⟩
  have hbeside : p ≠ tempName k :: d := by
    rintro rfl
    exact hp ⟨d, _, ((standsIn_tempPath_iff hd.toNamed hfits.fault).mpr hd).resolveParent_eq, rfl⟩
  exact ⟨hother p j hbeside hj, hreplaced.content p j hbeside hj⟩

/-- A workspace in which a log that has been written anew is found at its path: the path beside the log is
no link, and the path does not pass itself. -/
structure Plain (path : String) (w : Workspace) : Prop where
  wellFormed : w.WellFormed
  temp : w.namesLink (tempPath path) = false
  pass : w.passesItself path = false

theorem Plain.openAt_compact (hw : Plain path w) (hpath : s.path = some path) (hs : s.entries.Sorted)
    {s' : Store} (h : s.compact w = (.ok (), s', w')) : (openAt w' path).entries = s.entries := by
  obtain ⟨w₁, hwrite, hrename, -⟩ := compact_eq_ok hpath h
  obtain ⟨k, d, i, -, -, hattached, -⟩ :=
    exists_attached hpath hw.wellFormed hw.temp hwrite hrename hw.pass
  rw [hattached.openAt_eq, ofBytes_toUTF8]
  exact Log.entries_text hs

/-- If the path passes itself, then nothing is found at it. -/
theorem exists_read_error (hw : w.WellFormed) (htemp : w.namesLink (tempPath path) = false)
    {bytes : ByteArray} (hwrite : w.write (tempPath path) bytes = .ok w₁)
    (hrename : w₁.rename (tempPath path) path = .ok w₂) (hpass : w.passesItself path = true) :
    ∃ e, w₂.read path = .error e := by
  obtain ⟨k, d, hd, -, hfits, hvac, hreplaced⟩ := replaced_of_rename hw htemp hwrite hrename
  exact read_away hd.toNamed (hreplaced.not_standsIn hd hfits.short_name hvac hpass)

end Steps

/-- **Compaction.**  In a workspace where the path beside the log is no link, writing the log anew either
fails, in whichever of its steps, and then the store is as it was, and no entry of the workspace has changed
but the one beside the log; what is seen at the path has not changed either, except if the path names a link
that leads beside the log and the fault is in what was written there.  Or it succeeds, and then the entry that
the path names is a file with the canonical bytes for what is in memory, which are the same for every store
with the same map.  Unless the path passes itself, these bytes are read at the path, opening them gives back
what was in memory, writing anew again leaves them, and what is put later is appended to them and to no other
file; if it does, then nothing is found at the path. -/
theorem compact_atomic {s : Store} (hs : Reached s) {path : String} (hpath : s.path = some path)
    {w : Workspace} (hw : w.WellFormed) (htemp : w.namesLink (tempPath path) = false) (saving : Saving) :
    (∀ e s' w', s.compact w saving = (.error e, s', w') →
      s' = s ∧
        (∀ p, w'.sight? p ≠ w.sight? p → w.NamesAt (tempPath path) p ∧ ¬w.NamesAt path p) ∧
        (w'.look path = w.look path ∨
          ∃ kept fault p, saving = .cut kept fault ∧ w.NamesAt (tempPath path) p ∧
            w.namesLink path = true ∧ w.look path = w.sight? p ∧
            w'.look path = some (.file ((Log.text s.entries).toUTF8.extract 0 kept)))) ∧
      ∀ s' w', s.compact w saving = (.ok (), s', w') →
        s' = { s with handle := none, torn := false, appended := 0 } ∧
        (∃ p bytes, w.NamesAt path p ∧ w'.sight? p = some (.file bytes) ∧
          Canonical s.entries bytes) ∧
        (∀ t : Store, Reached t → (∀ sig, t.get? sig = s.get? sig) →
          Log.text t.entries = Log.text s.entries) ∧
        (w.passesItself path = false →
          w'.read path = .ok (Log.text s.entries).toUTF8 ∧
          (openAt w' path).entries = s.entries ∧
          (∃ w'', s'.compact w' = (.ok (), s', w'') ∧ w''.read path = w'.read path) ∧
          ∀ l, (putAll l (s', w')).2.read path =
              .ok ((Log.text s.entries).toUTF8 ++ (Log.text l).toUTF8) ∧
            ∀ p i, ¬w.NamesAt (tempPath path) p → w.nodeAt? p = some (.file i) →
              (putAll l (s', w')).2.content i = w.content i) ∧
        (w.passesItself path = true →
          (∃ e, w'.read path = .error e) ∧ (openAt w' path).entries = []) := by
  refine ⟨?_, ?_⟩
  · intro e s' w' h
    obtain ⟨rfl, rfl | ⟨kept, fault, rfl, hwrite⟩ | ⟨hwrite, fault, hrename⟩⟩ :=
      compact_eq_error hpath h
    · exact ⟨rfl, fun p hp => absurd rfl hp, Or.inl rfl⟩
    · refine ⟨rfl, fun p hp => namesAt_of_sight?_ne hw htemp hwrite hp, ?_⟩
      rcases look_of_write hw htemp hwrite with hsame | ⟨p, hp, hlink, hbefore, hafter⟩
      · exact Or.inl hsame
      · exact Or.inr ⟨kept, fault, p, rfl, hp, hlink, hbefore, hafter⟩
    · exact ⟨rfl, fun p hp => namesAt_of_sight?_ne hw htemp hwrite hp,
        Or.inl (look_of_rename_error hw htemp hwrite hrename)⟩
  · intro s' w' h
    obtain ⟨w₁, hwrite, hrename, rfl⟩ := compact_eq_ok hpath h
    refine ⟨rfl, ?_, fun t ht hget => ?_, fun hpass => ?_, fun hpass => ?_⟩
    · obtain ⟨k, d, hd, -, -, -, hreplaced⟩ := replaced_of_rename hw htemp hwrite hrename
      obtain ⟨i, hi, hcontent, -⟩ := hreplaced.file
      refine ⟨k :: d, _, ⟨d, k, hd.resolveParent_eq, rfl⟩, sight?_of_file hreplaced.wellFormed hi, ?_⟩
      rw [hcontent]
      exact canonical_text hs.sorted
    · rw [Entries.ext_of_sorted ht.sorted hs.sorted hget]
    · obtain ⟨k, d, i, hfits, hi, hattached, hother⟩ :=
        exists_attached hpath hw htemp hwrite hrename hpass
      have hread := hattached.read_file hi
      obtain ⟨w'', hagain, hread', -⟩ := hattached.compact_ok hfits
      refine ⟨hread, ?_, ⟨w'', hagain, hread'.trans hread.symm⟩, fun l => ?_⟩
      · rw [hattached.openAt_eq, ofBytes_toUTF8]
        exact Log.entries_text hs.sorted
      · obtain ⟨hlater, hcontents⟩ := hattached.putAll_file l rfl hi
        refine ⟨hlater, fun p j hp hj => ?_⟩
        obtain ⟨hne, hcontent⟩ := hother p j hp hj
        exact (hcontents j hne).trans hcontent
    · obtain ⟨e, he⟩ := exists_read_error hw htemp hwrite hrename hpass
      refine ⟨⟨e, he⟩, ?_⟩
      rw [openAt_of_read_error he]
      exact congrArg Store.entries (ofBytes_toUTF8 path "")

/-- The fault of a device on which there is no space left. -/
def deviceFull : FileFault := .other "No space left on device (os error 28)"

/-- A store that has the torn log open, since a verdict was to be appended to it and could not be saved. -/
def appendingStore : Store :=
  ((openAt tornSite "log").put tornSite "b" .analysisError (.cut 2 deviceFull)).2.1

/-- A directory in which the log is a link to the file beside it. -/
def besideSite : Workspace :=
  ⟨.dir [("ws", .dir [("log", .link "log.tmp"), ("log.tmp", .file 0)])], #["old".toUTF8], ["ws"]⟩

theorem wellFormed_besideSite : besideSite.WellFormed :=
  wellFormed_of_isWellFormed (by decide +kernel)

theorem look_besideSite : besideSite.look "log" = some (.file "old".toUTF8) :=
  (read_eq_ok_iff wellFormed_besideSite).mp (by decide +kernel)

/-- A fault before the first byte leaves the file beside the log empty, and the log is a link to it. -/
theorem look_compact_besideSite :
    ((openAt besideSite "log").compact besideSite (.cut 0 deviceFull)).2.2.look "log" ≠
      besideSite.look "log" := by
  intro hlook
  have hw : ((openAt besideSite "log").compact besideSite (.cut 0 deviceFull)).2.2.WellFormed :=
    wellFormed_of_isWellFormed (by decide +kernel)
  have hread : ((openAt besideSite "log").compact besideSite (.cut 0 deviceFull)).2.2.read "log" ≠
      .ok "old".toUTF8 := by
    decide +kernel
  exact hread ((read_eq_ok_iff hw).mpr (hlook.trans look_besideSite))

/-- The torn log is replaced while it is open, and what is put later leaves it alone.  At a path without a
last name the second step fails, with a file left in the directory.  Where the log is a link to the file
beside it, a fault in the first step has changed what is seen at the path. -/
theorem compact_atomic_torn :
    (Reached appendingStore ∧ appendingStore.path = some "log" ∧ tornSite.WellFormed ∧
      tornSite.namesLink (tempPath "log") = false ∧ tornSite.passesItself "log" = false ∧
      ∃ s' w', appendingStore.compact tornSite = (.ok (), s', w') ∧
        w'.read "log" = .ok (Log.text appendingStore.entries).toUTF8 ∧
        ∀ l, (putAll l (s', w')).2.content 0 = "torn".toUTF8) ∧
      (Reached (openAt tornSite ".") ∧ (openAt tornSite ".").path = some "." ∧
        tornSite.namesLink (tempPath ".") = false ∧
        ∃ e s' w', (openAt tornSite ".").compact tornSite = (.error e, s', w') ∧
          s' = openAt tornSite "." ∧ w'.look "." = tornSite.look "." ∧
          w'.leads (tempPath ".") = true) ∧
      Reached (openAt besideSite "log") ∧ (openAt besideSite "log").path = some "log" ∧
      besideSite.WellFormed ∧ besideSite.namesLink (tempPath "log") = false ∧
      besideSite.look "log" = some (.file "old".toUTF8) ∧
      ∃ e s' w', (openAt besideSite "log").compact besideSite (.cut 0 deviceFull) = (.error e, s', w') ∧
        s' = openAt besideSite "log" ∧ w'.look "log" = some (.file ByteArray.empty) := by
  have hw := wellFormed_tornSite
  refine ⟨?_, ?_, ?_⟩
  · have hreached : Reached appendingStore := .put (.openAt _ _) _ _ _ _
    have hpath : appendingStore.path = some "log" := by decide +kernel
    have htemp : tornSite.namesLink (tempPath "log") = false := by decide +kernel
    have hpass : tornSite.passesItself "log" = false := by decide +kernel
    have hok : (appendingStore.compact tornSite).1.isOk = true := by decide +kernel
    have hfile : tornSite.nodeAt? ["log", "ws"] = some (.file 0) := rfl
    have hlog : ¬tornSite.NamesAt (tempPath "log") ["log", "ws"] := fun h =>
      absurd h.getLast?_eq.1 (by decide +kernel)
    rcases hcompact : appendingStore.compact tornSite with ⟨e | u, s', w'⟩
    · rw [hcompact] at hok
      cases hok
    · obtain ⟨-, -, -, hlater, -⟩ := (compact_atomic hreached hpath hw htemp .done).2 s' w' hcompact
      obtain ⟨hread, -, -, hputs⟩ := hlater hpass
      exact ⟨hreached, hpath, hw, htemp, hpass, s', w', rfl, hread,
        fun l => (hputs l).2 _ 0 hlog hfile⟩
  · have hreached : Reached (openAt tornSite ".") := .openAt _ _
    have hpath : (openAt tornSite ".").path = some "." := by decide +kernel
    have htemp : tornSite.namesLink (tempPath ".") = false := by decide +kernel
    have herror : ((openAt tornSite ".").compact tornSite).1.isOk = false := by decide +kernel
    have hleft : ((openAt tornSite ".").compact tornSite).2.2.leads (tempPath ".") = true := by
      decide +kernel
    rcases hcompact : (openAt tornSite ".").compact tornSite with ⟨e | u, s', w'⟩
    · rw [hcompact] at hleft
      obtain ⟨hstore, -, hlook⟩ :=
        (compact_atomic hreached hpath hw htemp .done).1 e s' w' hcompact
      refine ⟨hreached, hpath, htemp, e, s', w', rfl, hstore, ?_, hleft⟩
      rcases hlook with hlook | ⟨kept, fault, p, hcut, -⟩
      · exact hlook
      · cases hcut
    · rw [hcompact] at herror
      cases herror
  · have hreached : Reached (openAt besideSite "log") := .openAt _ _
    have hpath : (openAt besideSite "log").path = some "log" := by decide +kernel
    have hwell := wellFormed_besideSite
    have htemp : besideSite.namesLink (tempPath "log") = false := by decide +kernel
    have herror : ((openAt besideSite "log").compact besideSite (.cut 0 deviceFull)).1.isOk = false := by
      decide +kernel
    have hchanged := look_compact_besideSite
    rcases hcompact : (openAt besideSite "log").compact besideSite (.cut 0 deviceFull) with
      ⟨e | u, s', w'⟩
    · obtain ⟨hstore, -, hlook⟩ :=
        (compact_atomic hreached hpath hwell htemp (.cut 0 deviceFull)).1 e s' w' hcompact
      rw [hcompact] at hchanged
      refine ⟨hreached, hpath, hwell, htemp, look_besideSite, e, s', w', rfl, hstore, ?_⟩
      rcases hlook with hlook | ⟨kept, fault, p, hcut, -, -, -, hafter⟩
      · exact absurd hlook hchanged
      · cases hcut
        rw [hafter]
        exact congrArg (some ∘ Sight.file) (by simp)
    · rw [hcompact] at herror
      cases herror

/-- A directory with a link to itself. -/
def loopSite : Workspace := ⟨.dir [("ws", .dir [("log", .link ".")])], #[], ["ws"]⟩

/-- A store with a verdict that could not be appended, since the path leads to a directory. -/
def loopStore : Store :=
  ((openAt loopSite "log/log").put loopSite "a" ⟨true, .high, "r", "f"⟩).2.1

/-- Where the path passes itself, writing the log anew succeeds and loses everything: the new file is in the
place of the link that the path goes through. -/
theorem compact_lost_in_loop :
    Reached loopStore ∧ loopStore.path = some "log/log" ∧ loopSite.WellFormed ∧
      loopSite.namesLink (tempPath "log/log") = false ∧ loopSite.passesItself "log/log" = true ∧
      loopStore.get? "a" = some ⟨true, .high, "r", "f"⟩ ∧
      (loopStore.compact loopSite).1.isOk = true ∧
      (openAt (loopStore.compact loopSite).2.2 "log/log").get? "a" = none ∧
      (loopStore.compact loopSite).2.2.leads "log/log" = false := by
  refine ⟨.put (.openAt _ _) _ _ _ _, ?_, wellFormed_of_isWellFormed (by decide +kernel), ?_, ?_, ?_,
    ?_, ?_, ?_⟩
  all_goals decide +kernel

end Store
end SinkAudit

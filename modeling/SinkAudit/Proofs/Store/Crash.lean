import SinkAudit.Proofs.Json.Cut
import SinkAudit.Proofs.Store.PutOrder

/-!
# A log that is cut off

A crash may leave only the first bytes of a log.  If the bytes stop between two characters, the log
says what the whole rows before the cut say: the row in which the cut falls is no record, unless only
its line feed is missing.  If they stop inside a character, they are no text, and a log that is no text
counts for nothing, so that the rows before the cut are lost with it.

* `Log.record?_cut`: the start of a record is no record.
* `Log.exists_whole`: a text before a cut is read as the records that are whole in it.
* `Workspace.cutOff`: the workspace after the crash; `Held.openAt_cutOff`: the store then opened.
* `Store.recovered_of_cut`: what is recovered, for every cut; `Store.lost_in_character`: a record that
  lies before the cut and is not.
-/

namespace SinkAudit

/-! ## Records before a cut -/

namespace Log

/-- The start of a record is no record. -/
theorem record?_cut {sig : String} {v : Verdict} {p r : List Char}
    (h : (recordJson sig v).compact.toList = p ++ r) (hr : r ≠ []) :
    record? (String.ofList p) = none := by
  have hparse := Json.parse?_compact (recordJson sig v) (isPlain_recordJson sig v)
  obtain ⟨m, hm⟩ : ∃ m, (recordJson sig v).compact.toList = '\x7b' :: (m ++ ['\x7d']) := by
    rw [recordJson, Json.object, Json.compact, String.toList_append, String.toList_append]
    exact ⟨_, rfl⟩
  cases p with
  | nil => exact record?_empty
  | cons c p =>
    -- The cut leaves the brace at the start, and takes the one at the end.
    obtain ⟨q, b, rfl⟩ : ∃ q b, r = q ++ [b] := ⟨_, _, (List.dropLast_concat_getLast hr).symm⟩
    rw [hm, List.cons_append, ← List.append_assoc] at h
    obtain ⟨rfl, hbody⟩ := List.cons.inj h
    obtain ⟨hinner, hlast⟩ := List.append_inj' hbody rfl
    have hwhole : (recordJson sig v).compact =
        String.ofList ('\x7b' :: (p ++ (q ++ ['\x7d']))) := by
      rw [← String.ofList_toList (s := (recordJson sig v).compact), hm, hinner, List.append_assoc]
    rw [hwhole] at hparse
    rw [record?, Json.parse?_cut hparse]
    rfl

/-- A text without a line feed is one row, or none. -/
theorem foldl_readRow_row {t : String} (h : '\n' ∉ t.toList) (es : Entries) :
    (Text.rows t).foldl readRow es = readRow es t := by
  have hrows : Text.rowsFrom [] t.toList = Text.rowsFrom t.toList.reverse [] := by
    have happend := Text.rowsFrom_append_of_notMem [] t.toList [] h
    rwa [List.append_nil, List.append_nil] at happend
  rw [Text.rows, hrows, Text.rowsFrom, List.reverse_reverse]
  cases ht : t.toList with
  | nil =>
    have hempty : t = String.ofList [] := by rw [← ht, String.ofList_toList]
    rw [hempty, readRow_of_record?_eq_none record?_empty]
    rfl
  | cons c r =>
    rw [← ht, if_neg (by rw [ht]; simp), List.map_cons, String.ofList_toList]
    rfl

/-- What the start of a row adds: the record, if only the line feed is missing, or nothing. -/
theorem readRow_cut {sig : String} {v : Verdict} {t b : String}
    (h : (recordJson sig v).compact = t ++ b) (es : Entries) :
    (Text.rows t).foldl readRow es = if b = "" then es.insert sig v else es := by
  have hlist : (recordJson sig v).compact.toList = t.toList ++ b.toList := by
    rw [h, String.toList_append]
  have hnewline : '\n' ∉ t.toList := by
    intro hmem
    refine Json.newline_notMem_compact _ (isPlain_recordJson sig v) ?_
    rw [hlist]
    exact List.mem_append_left _ hmem
  rw [foldl_readRow_row hnewline]
  by_cases hb : b = ""
  · rw [if_pos hb, ← readRow_compact, h, hb, String.append_empty]
  · have hne : b.toList ≠ [] := fun hnil => hb (String.toList_eq_nil_iff.mp hnil)
    have hnone := record?_cut hlist hne
    rw [String.ofList_toList] at hnone
    rw [if_neg hb, readRow_of_record?_eq_none hnone]

theorem utf8ByteSize_line (sig : String) (v : Verdict) :
    (line sig v).utf8ByteSize = (recordJson sig v).compact.utf8ByteSize + 1 := by
  rw [line, String.utf8ByteSize_append]
  rfl

theorem utf8ByteSize_text_cons (sig : String) (v : Verdict) (ps : Entries) :
    (text ((sig, v) :: ps)).utf8ByteSize = (line sig v).utf8ByteSize + (text ps).utf8ByteSize := by
  rw [text, String.utf8ByteSize_append]

/-- Where a cut falls: behind a line, or so that the start of its row is left. -/
theorem exists_of_line_append {sig : String} {v : Verdict} {more t₁ t₂ : String}
    (h : line sig v ++ more = t₁ ++ t₂) :
    (∃ t, t₁ = line sig v ++ t ∧ more = t ++ t₂) ∨ ∃ b, (recordJson sig v).compact = t₁ ++ b := by
  have hlist : (line sig v).toList ++ more.toList = t₁.toList ++ t₂.toList := by
    rw [← String.toList_append, h, String.toList_append]
  rcases List.append_eq_append_iff.mp hlist with ⟨a, ht, hmore⟩ | ⟨c, hline, ht⟩
  · refine Or.inl ⟨String.ofList a, String.toList_inj.mp ?_, String.toList_inj.mp ?_⟩
    · rw [String.toList_append, String.toList_ofList, ht]
    · rw [String.toList_append, String.toList_ofList, hmore]
  · by_cases hc : c = []
    · rw [hc, List.append_nil] at hline
      rw [hc, List.nil_append] at ht
      refine Or.inl ⟨"", ?_, ?_⟩
      · rw [String.append_empty, String.toList_inj.mp hline]
      · rw [String.empty_append, String.toList_inj.mp ht]
    · -- What is cut off ends with the line feed.
      refine Or.inr ⟨String.ofList c.dropLast, String.toList_inj.mp ?_⟩
      have hnl : ("\n" : String).toList = ['\n'] := rfl
      rw [line, String.toList_append, hnl, ← List.dropLast_concat_getLast hc,
        ← List.append_assoc] at hline
      rw [(List.append_inj' hline rfl).1, String.toList_append, String.toList_ofList]

/-- A log of records up to a cut is read as the records that are whole before it: those whose text is
there but for the last line feed.  The text of the record after them is not. -/
theorem exists_whole :
    ∀ (ps : Entries) {t₁ t₂ : String}, text ps = t₁ ++ t₂ →
      ∃ done rest, ps = done ++ rest ∧ (text done).utf8ByteSize ≤ t₁.utf8ByteSize + 1 ∧
        (∀ e ∈ rest.head?, t₁.utf8ByteSize + 1 < (text (done ++ [e])).utf8ByteSize) ∧
        ∀ es, (Text.rows t₁).foldl readRow es = done.foldl (fun m e => m.insert e.1 e.2) es
  | [], t₁, t₂, h => by
    have hempty : t₁ = "" := (String.append_eq_empty_iff.mp h.symm).1
    exact ⟨[], [], rfl, Nat.zero_le _, by simp, fun es => by rw [hempty]; rfl⟩
  | (sig, v) :: ps, t₁, t₂, h => by
    rcases exists_of_line_append h with ⟨t, rfl, ht⟩ | ⟨b, hrow⟩
    · obtain ⟨done, rest, rfl, hdone, hrest, hread⟩ := exists_whole ps ht
      rw [String.utf8ByteSize_append]
      refine ⟨(sig, v) :: done, rest, rfl, ?_, fun e he => ?_, fun es => ?_⟩
      · rw [utf8ByteSize_text_cons]
        omega
      · have hlong := hrest e he
        rw [List.cons_append, utf8ByteSize_text_cons]
        omega
      · rw [Text.rows_append_of_closed (closed_line sig v), rows_line, List.singleton_append,
          List.foldl_cons, readRow_compact, hread, List.foldl_cons]
    · have hread := readRow_cut hrow
      have hline := utf8ByteSize_line sig v
      rw [hrow, String.utf8ByteSize_append] at hline
      have hnil : (text []).utf8ByteSize = 0 := rfl
      by_cases hb : b = ""
      · have hzero : b.utf8ByteSize = 0 := by rw [hb]; rfl
        refine ⟨[(sig, v)], ps, rfl, ?_, fun e he => ?_, fun es => ?_⟩
        · rw [utf8ByteSize_text_cons]
          omega
        · have hnext := utf8ByteSize_line e.1 e.2
          rw [List.singleton_append, utf8ByteSize_text_cons, utf8ByteSize_text_cons]
          omega
        · rw [hread, if_pos hb]
          rfl
      · have hpos : 0 < b.utf8ByteSize :=
          Nat.pos_of_ne_zero fun hzero => hb (String.utf8ByteSize_eq_zero_iff.mp hzero)
        refine ⟨[], (sig, v) :: ps, rfl, Nat.zero_le _, fun e he => ?_, fun es => ?_⟩
        · obtain rfl : (sig, v) = e := Option.some.inj he
          rw [List.nil_append, utf8ByteSize_text_cons]
          omega
        · rw [hread, if_neg hb]
          rfl

end Log

/-! ## The log after a crash -/

namespace Workspace

/-- The workspace after a crash that leaves only the first bytes of the file at a path. -/
def cutOff (w : Workspace) (path : String) (n : Nat) : Workspace :=
  match w.resolve .inspect path with
  | .ok (.found _ (.file i)) => w.setContent i ((w.content i).extract 0 n)
  | _ => w

end Workspace

open Workspace

namespace Store

section Cut

variable {path k : String} {bytes : ByteArray} {s : Store} {w : Workspace}

/-- The store that is opened after the crash has what the bytes that are left say. -/
theorem Held.openAt_cutOff (h : Held path k bytes s w) (n : Nat) :
    openAt (w.cutOff path n) path = ofBytes path (bytes.extract 0 n) := by
  have hempty : ByteArray.empty.extract 0 n = ByteArray.empty := by simp
  cases h with
  | pending _ named away _ _ =>
    obtain ⟨e, he⟩ := named.resolve_eq_error away
    rw [cutOff, he, hempty]
    exact openAt_away named away
  | @attached d _ _ _ h =>
    have hresolve := h.site.stands.resolve_entry (q := .inspect) h.site.short h.site.log
    rcases h.log with ⟨hnone, rfl, -⟩ | ⟨i, hi, rfl, -⟩
    · rw [entryTarget, hnone] at hresolve
      rw [cutOff, hresolve, hempty]
      exact h.openAt_eq
    · rw [entryTarget, hi] at hresolve
      rw [cutOff, hresolve]
      have hput := puts_setContent h.site.wellFormed hi ((w.content i).extract 0 n)
      have hsite := h.site.puts hput
      obtain ⟨j, hj, hcontent⟩ := hput.file
      exact openAt_of_read (hcontent ▸ hsite.stands.read_file hsite.short hj)

/-- Verdicts put in turn add their records to a log that does not stop in the middle of a row. -/
theorem Held.putAll :
    ∀ (ps : List (String × Verdict)) {bytes : ByteArray} {s : Store} {w : Workspace},
      Held path k bytes s w → s.torn = false →
      Held path k (bytes ++ (Log.text ps).toUTF8) (putAll ps (s, w)).1 (putAll ps (s, w)).2
  | [], bytes, s, w, h, _ => by
    have hnone : bytes ++ (Log.text []).toUTF8 = bytes := ByteArray.append_empty
    rw [hnone]
    exact h
  | (sig, v) :: ps, bytes, s, w, h, htorn => by
    obtain ⟨d, i, w', hput, hattached⟩ := h.put sig v
    have hline : Log.addition false sig v = Log.line sig v := String.empty_append
    rw [htorn, hline] at hattached
    rw [Store.putAll, hput, Log.text, Text.toUTF8_append, ← ByteArray.append_assoc]
    exact Held.putAll ps (.attached hattached) rfl

theorem LogPlace.held_of_missing (h : LogPlace w path) (hmissing : w.leads path = false)
    (hk : Named path k) : Held path k ByteArray.empty (openAt w path) w := by
  obtain ⟨bytes, hheld, rfl | ⟨p, i, -, hread⟩⟩ := h.exists_held hk
  · exact hheld
  · rw [leads] at hmissing
    rw [Workspace.read] at hread
    cases hnode : w.node path with
    | error e =>
      rw [hnode] at hread
      exact absurd hread (by simp)
    | ok r =>
      rw [hnode] at hmissing
      exact absurd hmissing (by simp [Except.toBool])

/-- The log of verdicts put in turn into a store whose log was missing. -/
theorem LogPlace.held_putAll (h : LogPlace w path) (hmissing : w.leads path = false)
    (hk : Named path k) (ps : List (String × Verdict)) :
    Held path k (Log.text ps).toUTF8 (putAll ps (openAt w path, w)).1
      (putAll ps (openAt w path, w)).2 := by
  have hheld := h.held_of_missing hmissing hk
  have htorn : (openAt w path).torn = false := by
    rw [hheld.openAt_eq, ofBytes_empty]
    rfl
  have hall := Held.putAll ps hheld htorn
  rwa [ByteArray.empty_append] at hall

/-- A log that has bytes is a file that has them. -/
theorem Held.read_eq (h : Held path k bytes s w) (hbytes : bytes ≠ ByteArray.empty) :
    w.read path = .ok bytes := by
  cases h with
  | pending => exact absurd rfl hbytes
  | attached h =>
    rcases h.log with ⟨-, hempty, -⟩ | ⟨i, hi, rfl, -⟩
    · exact absurd hempty hbytes
    · exact h.site.stands.read_file h.site.short hi

end Cut

/-- **Recovery.**  Verdicts are put into a store whose log was missing, and a crash leaves the first
bytes of its log.  If they stop between two characters, then opening the log gives the verdicts of all
records before the cut, of which the last may lack its line feed, and of no other.  If they stop inside
a character, it gives nothing. -/
theorem recovered_of_cut {w : Workspace} {path : String} (h : LogPlace w path)
    (hmissing : w.leads path = false) (ps : List (String × Verdict)) {n : Nat}
    (hn : n ≤ (Log.text ps).utf8ByteSize) :
    (ps ≠ [] → (putAll ps (openAt w path, w)).2.read path = .ok (Log.text ps).toUTF8) ∧
      (String.Pos.Raw.IsValid (Log.text ps) ⟨n⟩ → ∃ done rest, ps = done ++ rest ∧
        (Log.text done).utf8ByteSize ≤ n + 1 ∧
        (∀ e ∈ rest.head?, n + 1 < (Log.text (done ++ [e])).utf8ByteSize) ∧
        (openAt ((putAll ps (openAt w path, w)).2.cutOff path n) path).entries =
          done.foldl (fun m e => Entries.insert e.1 e.2 m) []) ∧
      (¬String.Pos.Raw.IsValid (Log.text ps) ⟨n⟩ →
        (openAt ((putAll ps (openAt w path, w)).2.cutOff path n) path).entries = []) := by
  obtain ⟨k, hk⟩ := h.named
  have hheld := h.held_putAll hmissing hk ps
  have hopen := hheld.openAt_cutOff n
  refine ⟨fun hps => hheld.read_eq ?_, fun hborder => ?_, fun hinside => ?_⟩
  · obtain ⟨⟨sig, v⟩, rest, rfl⟩ := List.exists_cons_of_ne_nil hps
    intro hempty
    have hsize := congrArg ByteArray.size hempty
    have hcons := Log.utf8ByteSize_text_cons sig v rest
    have hline := Log.utf8ByteSize_line sig v
    have hzero : (Log.text ((sig, v) :: rest)).utf8ByteSize = 0 := hsize
    omega
  · rcases Text.fromUTF8?_cut hn with ⟨t₁, t₂, ht, rfl, -, hutf⟩ | ⟨hinside, -⟩
    · obtain ⟨done, rest, hps, hdone, hrest, hread⟩ := Log.exists_whole ps ht
      refine ⟨done, rest, hps, hdone, hrest, ?_⟩
      rw [hopen, ofBytes, hutf]
      exact hread []
    · exact absurd hborder hinside
  · rcases Text.fromUTF8?_cut hn with ⟨-, -, -, -, hborder, -⟩ | ⟨-, hutf⟩
    · exact absurd hborder hinside
    · rw [hopen, ofBytes, hutf]

theorem nodeAt?_home_empty :
    (Workspace.empty "ws").nodeAt? (Workspace.empty "ws").home = some (.dir []) := rfl

theorem leads_empty : (Workspace.empty "ws").leads "log" = false := by
  have hnone : (Workspace.empty "ws").nodeAt? ("log" :: (Workspace.empty "ws").home) = none := rfl
  rw [leads, node, (standsIn_log nodeAt?_home_empty).resolve_entry (by decide) (Or.inl hnone),
    entryTarget, hnone]
  rfl

theorem logPlace_empty : LogPlace (Workspace.empty "ws") "log" := by
  have hwell : (Workspace.empty "ws").WellFormed := wellFormed_of_isWellFormed (by decide +kernel)
  exact logPlace_log hwell nodeAt?_home_empty (Or.inl rfl) rfl

/-- Two verdicts, the second with a character of two bytes. -/
def twoVerdicts : List (String × Verdict) :=
  [("a", ⟨true, .high, "why", "fix"⟩), ("b", ⟨true, .high, "é", "fix"⟩)]

/-- A cut inside a character loses the record that lies before it. -/
theorem lost_in_character :
    LogPlace (Workspace.empty "ws") "log" ∧ (Workspace.empty "ws").leads "log" = false ∧
      (Log.line "a" ⟨true, .high, "why", "fix"⟩).utf8ByteSize ≤ 180 ∧
      180 ≤ (Log.text twoVerdicts).utf8ByteSize ∧
      (openAt ((putAll twoVerdicts (openAt (Workspace.empty "ws") "log", Workspace.empty "ws")).2.cutOff
        "log" 180) "log").get? "a" = none := by
  have hfits : (Log.line "a" ⟨true, .high, "why", "fix"⟩).utf8ByteSize ≤ 180 ∧
      180 ≤ (Log.text twoVerdicts).utf8ByteSize ∧
      ¬String.Pos.Raw.IsValid (Log.text twoVerdicts) ⟨180⟩ := by decide +kernel
  refine ⟨logPlace_empty, leads_empty, hfits.1, hfits.2.1, ?_⟩
  have hheld := logPlace_empty.held_putAll leads_empty named_log twoVerdicts
  rw [hheld.openAt_cutOff, ofBytes]
  rcases Text.fromUTF8?_cut hfits.2.1 with ⟨-, -, -, -, hborder, -⟩ | ⟨-, hutf⟩
  · exact absurd hborder hfits.2.2
  · rw [hutf]
    rfl

/-- A cut in the middle of the second record, right before the character: the first is recovered, and
the second is not. -/
theorem recovered_of_cut_before_character :
    String.Pos.Raw.IsValid (Log.text twoVerdicts) ⟨179⟩ ∧
      (openAt ((putAll twoVerdicts (openAt (Workspace.empty "ws") "log", Workspace.empty "ws")).2.cutOff
        "log" 179) "log").entries = [("a", ⟨true, .high, "why", "fix"⟩)] := by
  have hfits : 179 ≤ (Log.text twoVerdicts).utf8ByteSize ∧
      String.Pos.Raw.IsValid (Log.text twoVerdicts) ⟨179⟩ := by decide +kernel
  obtain ⟨-, hcut, -⟩ := recovered_of_cut logPlace_empty leads_empty twoVerdicts hfits.1
  obtain ⟨done, rest, hps, hdone, hrest, hentries⟩ := hcut hfits.2
  refine ⟨hfits.2, hentries.trans ?_⟩
  have hsizes : (Log.text (twoVerdicts.take 1)).utf8ByteSize ≤ 180 ∧
      180 < (Log.text twoVerdicts).utf8ByteSize := by decide +kernel
  -- Neither no record nor both are whole before the cut.
  rcases done with _ | ⟨e, _ | ⟨f, done⟩⟩
  · rw [List.nil_append] at hps
    have hlong := hrest ("a", ⟨true, .high, "why", "fix"⟩) (by rw [← hps]; rfl)
    exact absurd hsizes.1 (Nat.not_le.mpr hlong)
  · obtain ⟨rfl, -⟩ := List.cons.inj hps
    rfl
  · obtain ⟨rfl, htail⟩ := List.cons.inj hps
    obtain ⟨rfl, hnil⟩ := List.cons.inj htail
    rw [(List.append_eq_nil_iff.mp hnil.symm).1] at hdone
    exact absurd hsizes.2 (Nat.not_lt.mpr hdone)

end Store

end SinkAudit

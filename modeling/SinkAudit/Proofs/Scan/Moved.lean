import SinkAudit.Proofs.Scan.Signature
import SinkAudit.Proofs.Text.Rows

/-!
# Moved code

Lines that are put in front of a text move its lines down.  What a rule finds in a line does not depend
on where the line stands, so the candidates of the text are found again, further down.  A window that
lies inside the text shows the same rows as before, each with its new number.

A signature is a digest of the id of the rule and of the window.  The line number is left out of this
message by name, but the window shows it; so a candidate that has moved has another message than before,
and a verdict that was kept for it is not found again.

* `Window.visible_append`: a window behind further lines is the window with its numbers moved on.
* `Scanner.moved`: a candidate behind further lines, and `Scanner.mem_sightings_append`: that it is
  the one that is found there.
* `Scanner.moved_code_renumbered`: what becomes of the window and of the message of a candidate.
-/

namespace SinkAudit

/-! ## Windows -/

namespace Scan.Window

/-- The row of the same line, `k` lines further down. -/
def Shown.moved (k : Nat) (x : Shown) : Shown :=
  { x with number := x.number + k }

theorem Shown.ofLine_moved (target index k : Nat) (line : String) :
    ofLine (target + k) (index + k) line = (ofLine target index line).moved k := by
  have hmark : decide (index + k = target + k) = decide (index = target) := by
    rw [decide_eq_decide]
    omega
  rw [ofLine, ofLine, moved, hmark, Nat.add_right_comm]

theorem shown_moved (target k : Nat) (ls : List String) :
    ∀ i, shown (target + k) (i + k) ls = (shown target i ls).map (Shown.moved k) := by
  induction ls with
  | nil => exact fun _ => rfl
  | cons l ls ih =>
    intro i
    rw [shown, shown, List.map_cons, Shown.ofLine_moved, Nat.add_right_comm, ih]

/-- A window that lies inside a text, behind further lines: the same rows with other numbers. -/
theorem visible_append {front lines : List String} {target radius : Nat} (hinside : radius ≤ target) :
    visible (front ++ lines) (target + front.length) radius =
      (visible lines target radius).map (Shown.moved front.length) := by
  have hstart : start (target + front.length) radius = start target radius + front.length := by
    rw [start, start]
    omega
  have hlimit : limit (target + front.length) radius (front ++ lines).length =
      front.length + limit target radius lines.length := by
    rw [limit, limit, List.length_append]
    omega
  rw [visible, visible, hstart, hlimit, List.take_length_add_append,
    Nat.add_comm (start target radius), List.drop_length_add_append,
    Nat.add_comm front.length, shown_moved]

end Scan.Window

/-! ## Candidates -/

namespace Scanner

open Scan.Line (split)

variable {s : Scanner} {path before content : String} {c : Candidate}

/-- A candidate behind further lines: what it says of its line stays, and it gets the number and the
window of its new place. -/
def moved (s : Scanner) (before content : String) (c : Candidate) : Candidate :=
  { c with
    line := c.line + (split before).length
    snippet := Scan.Window.plain (split (before ++ content))
      (c.line - 1 + (split before).length) s.config.contextLines }

theorem apart_of_closed (hbefore : Text.Closed before.toList) :
    Scan.Line.Apart before.toList content.toList := by
  rcases hbefore with hnil | ⟨t, ht⟩
  · rw [hnil]
    exact fun c hc => absurd hc (by simp)
  · rw [ht]
    exact Scan.Line.apart_append_newline t content.toList

/-- The candidate that is found behind further lines where a candidate was, and no other. -/
theorem mem_sightings_append (hbefore : Text.Closed before.toList)
    (hc : c ∈ s.sightings path content) (d : Candidate) :
    d ∈ s.sightings path (before ++ content) ∧ d.line = c.line + (split before).length ↔
      d = s.moved before content c := by
  have happart : Scan.Line.Apart before.toList content.toList := apart_of_closed hbefore
  obtain ⟨index, line, hline, hsighting⟩ := mem_sightings.mp hc
  obtain ⟨hskip, rule, pattern, hmatch, rfl⟩ := sighting?_eq_some_iff.mp hsighting
  -- The line is the same, and so is all that the scan makes of it by itself.
  have hline' : (split (before ++ content))[index + (split before).length]? = some line := by
    rw [Scan.Line.split_append happart, Nat.add_comm, List.getElem?_append_right (Nat.le_add_right _ _),
      Nat.add_sub_cancel_left, hline]
  have hsighting' : ∀ d, s.sighting? path (split (before ++ content)) (index + (split before).length) line =
      some d ↔ d = s.moved before content (s.claim path (split content) index line rule pattern) := by
    intro d
    have hmoved : s.moved before content (s.claim path (split content) index line rule pattern) =
        s.claim path (split (before ++ content)) (index + (split before).length) line rule pattern := by
      rw [moved, claim, claim, Nat.add_sub_cancel, Nat.add_right_comm]
    rw [sighting?_eq_some_iff, hmoved]
    constructor
    · rintro ⟨-, rule', pattern', hmatch', rfl⟩
      obtain ⟨rfl, rfl⟩ := Prod.mk.inj (Option.some.inj (hmatch.symm.trans hmatch'))
      rfl
    · rintro rfl
      exact ⟨hskip, rule, pattern, hmatch, rfl⟩
  rw [← hsighting', mem_sightings]
  constructor
  · rintro ⟨⟨index', line', hline'', hd⟩, hnumber⟩
    obtain ⟨-, rule', pattern', -, rfl⟩ := sighting?_eq_some_iff.mp hd
    obtain rfl : index' = index + (split before).length := by
      have hnumbers : index' + 1 = index + 1 + (split before).length := hnumber
      omega
    obtain rfl : line' = line := Option.some.inj (hline''.symm.trans hline')
    exact hd
  · intro hd
    refine ⟨⟨_, line, hline', hd⟩, ?_⟩
    rw [(hsighting' d).mp hd, moved]

/-- The window of a candidate that has moved, if it lies inside the text. -/
theorem snippet_moved (hbefore : Text.Closed before.toList) (hc : c ∈ s.sightings path content)
    (hinside : s.config.contextLines < c.line) :
    ∃ rows : List Scan.Window.Shown, c.snippet.toList = rows.flatMap Scan.Window.Shown.render ∧
      (s.moved before content c).snippet.toList =
        (rows.map (.moved (split before).length)).flatMap Scan.Window.Shown.render := by
  obtain ⟨index, line, -, hsighting⟩ := mem_sightings.mp hc
  obtain ⟨-, rule, pattern, -, rfl⟩ := sighting?_eq_some_iff.mp hsighting
  have hinside' : s.config.contextLines < index + 1 := hinside
  have hvisible : Scan.Window.visible (split before ++ split content)
      (index + (split before).length) s.config.contextLines =
        (Scan.Window.visible (split content) index s.config.contextLines).map
          (.moved (split before).length) :=
    Scan.Window.visible_append (by omega)
  refine ⟨Scan.Window.visible (split content) index s.config.contextLines,
    Scan.Window.toList_plain _ _ _, ?_⟩
  rw [moved, claim, Scan.Window.toList_plain, Scan.Line.split_append (apart_of_closed hbefore),
    Nat.add_sub_cancel, hvisible]

/-- A candidate that has moved has the window that it had only if it has not moved. -/
theorem moved_snippet_eq_iff (hbefore : Text.Closed before.toList)
    (hc : c ∈ s.sightings path content) :
    (s.moved before content c).snippet = c.snippet ↔ before = "" := by
  have hmoved := ((mem_sightings_append hbefore hc _).mpr rfl).1
  obtain ⟨index, line, hline, hsighting⟩ := mem_sightings.mp hc
  obtain ⟨-, rule, pattern, -, rfl⟩ := sighting?_eq_some_iff.mp hsighting
  constructor
  · intro hsnippet
    obtain ⟨index', line', hline', hsighting'⟩ := mem_sightings.mp hmoved
    obtain ⟨-, rule', pattern', -, hclaim⟩ := sighting?_eq_some_iff.mp hsighting'
    have hnumber : index + 1 + (split before).length = index' + 1 := congrArg Candidate.line hclaim
    -- A window shows the number of its target.
    rw [hclaim] at hsnippet
    obtain ⟨hindex, -⟩ := Scan.Window.eq_of_plain_eq hline' hline hsnippet
    have hnil : split before = [] := List.eq_nil_of_length_eq_zero (by omega)
    rw [split, List.map_eq_nil_iff] at hnil
    exact String.toList_eq_nil_iff.mp (Scan.Line.splitChars_eq_nil hnil)
  · rintro rfl
    rw [moved, claim, String.empty_append]
    rfl

/-- **Moved code gets another message.**  Behind complete lines that are put in front of a text, a
candidate is found again, and it is the only one of its line.  If its window lies inside the text, the
window shows the same rows with their numbers moved on.  So the message, of which the signature is the
digest, is the one that it was only if nothing has moved, and a signature that stays comes from a
collision.  The scan of the longer text is one that succeeds. -/
theorem moved_code_renumbered (hbefore : Text.Closed before.toList)
    (hfits : s.Fits (before ++ content)) (hc : s.Reports path content c)
    (hinside : s.config.contextLines < c.line) :
    (∀ d, s.Reports path (before ++ content) d ∧ d.line = c.line + (split before).length ↔
      d = s.moved before content c) ∧
    (∃ rows : List Scan.Window.Shown, c.snippet.toList = rows.flatMap Scan.Window.Shown.render ∧
      (s.moved before content c).snippet.toList =
        (rows.map (.moved (split before).length)).flatMap Scan.Window.Shown.render) ∧
    ((s.moved before content c).message = c.message ↔ before = "") ∧
    (before ≠ "" → (s.moved before content c).signature = c.signature →
      (s.moved before content c).message ≠ c.message ∧
        Digest.sha256 (s.moved before content c).message = Digest.sha256 c.message) := by
  obtain ⟨-, hc⟩ := reports_iff.mp hc
  have hfound : ∀ d, s.Reports path (before ++ content) d ∧
      d.line = c.line + (split before).length ↔ d = s.moved before content c := by
    intro d
    rw [reports_iff, and_iff_right hfits]
    exact mem_sightings_append hbefore hc d
  have hmessage : (s.moved before content c).message = c.message ↔ before = "" := by
    rw [← moved_snippet_eq_iff hbefore hc, Candidate.message, Candidate.message]
    have hid : (s.moved before content c).ruleId = c.ruleId := by rw [moved]
    rw [hid]
    constructor
    · intro h
      exact toUTF8_injective (List.cons.inj (List.append_cancel_left h)).2
    · intro h
      rw [h]
  refine ⟨hfound, snippet_moved hbefore hc hinside, hmessage, ?_⟩
  intro hne hsignature
  rw [Candidate.signature_eq, Candidate.signature_eq] at hsignature
  exact ⟨fun h => hne (hmessage.mp h), Digest.hex_injective hsignature⟩

/-- One line of context. -/
def narrow : ScanConfig := { contextLines := 1 }

/-- A call on the second line, so that its window lies inside the text. -/
theorem lowCall_mem :
    callAt narrow "main.js" "// a\neval(x)\n" 1 ∈
      (builtin narrow).sightings "main.js" "// a\neval(x)\n" :=
  call_mem_sightings rfl (by decide) (by decide) "main.js"

theorem reports_lowCall :
    (builtin narrow).Reports "main.js" "// a\neval(x)\n"
      (callAt narrow "main.js" "// a\neval(x)\n" 1) :=
  reports_iff.mpr ⟨fits_of_length (by decide), lowCall_mem⟩

/-- With a further line in front, the text is not too long for the windows. -/
theorem fits_lowCall : (builtin narrow).Fits ("// z\n" ++ "// a\neval(x)\n") :=
  fits_of_length (by decide)

/-- One line is put in front of the text. -/
theorem moved_code_renumbered_call :
    (builtin narrow).Reports "main.js" "// a\neval(x)\n"
        (callAt narrow "main.js" "// a\neval(x)\n" 1) ∧
      ((builtin narrow).moved "// z\n" "// a\neval(x)\n"
        (callAt narrow "main.js" "// a\neval(x)\n" 1)).message ≠
          (callAt narrow "main.js" "// a\neval(x)\n" 1).message := by
  have hclosed : Text.Closed "// z\n".toList := Or.inr ⟨"// z".toList, by decide⟩
  refine ⟨reports_lowCall, fun h => ?_⟩
  have hempty :=
    (moved_code_renumbered hclosed fits_lowCall reports_lowCall (by decide)).2.2.1.mp h
  exact absurd hempty (by decide)

/-- The call in the text with one line in front of it has another signature, though its whole window has
moved with it. -/
theorem moved_call_not_kept :
    ∃ c d, (builtin narrow).Reports "main.js" "// a\neval(x)\n" c ∧
      (builtin narrow).Reports "main.js" ("// z\n" ++ "// a\neval(x)\n") d ∧
      narrow.contextLines < c.line ∧ d.line = c.line + 1 ∧ d.signature ≠ c.signature := by
  have hclosed : Text.Closed "// z\n".toList := Or.inr ⟨"// z".toList, by decide⟩
  have hmoved := (mem_sightings_append hclosed lowCall_mem _).mpr rfl
  have hreports := reports_iff.mpr ⟨fits_lowCall, hmoved.1⟩
  exact ⟨_, _, reports_lowCall, hreports, by decide, hmoved.2, by decide +kernel⟩

end Scanner

end SinkAudit

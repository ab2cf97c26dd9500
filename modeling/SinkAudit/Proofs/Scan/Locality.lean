import SinkAudit.Proofs.Scan.Moved

/-!
# Code that was not changed

What a scan says of a line depends on the line, on its number and on the lines that its window shows.
So an edit that leaves these lines where they are, and as they are, leaves the candidate as it is, and
with it the signature under which a verdict is kept: only lines in whose windows something has changed
are judged again.

Lines are compared by their numbers.  Two texts agree on a number when both have no such line or both
have the same, with the same terminator; so a window that stops at the end of a text is covered too.

* `Scan.Line.AgreeOn`: two texts have the same lines between two numbers.
* `Scan.Window.plain_congr`: a window depends on the lines that it reaches.
* `Scanner.unchanged_window_kept`: the candidates of a line in two texts.
-/

namespace SinkAudit

namespace Scan

/-- Two texts have the same lines from one number up to another. -/
def Line.AgreeOn (content content' : String) (first last : Nat) : Prop :=
  ∀ m, first ≤ m → m ≤ last → numbered? content m = numbered? content' m

theorem Line.AgreeOn.symm {content content' : String} {first last : Nat}
    (h : AgreeOn content content' first last) : AgreeOn content' content first last :=
  fun m hfirst hlast => (h m hfirst hlast).symm

theorem drop_take_congr {lines lines' : List String} {first stop : Nat}
    (h : ∀ i, first ≤ i → i < stop → lines[i]? = lines'[i]?) :
    (lines.take stop).drop first = (lines'.take stop).drop first := by
  ext1 k
  rw [List.getElem?_drop, List.getElem?_drop, List.getElem?_take, List.getElem?_take]
  split
  case isTrue hlt => exact h _ (Nat.le_add_right first k) hlt
  case isFalse => rfl

/-- A window depends on the lines that it reaches, whatever stands before and behind them. -/
theorem Window.plain_congr {lines lines' : List String} {target radius : Nat}
    (h : ∀ i, target - radius ≤ i → i < target + radius + 1 → lines[i]? = lines'[i]?) :
    plain lines target radius = plain lines' target radius := by
  have hlimit : ∀ ls : List String,
      ls.take (limit target radius ls.length) = ls.take (target + radius + 1) := by
    intro ls
    rw [limit, ← List.take_eq_take_min]
  rw [plain, plain, text, text, hlimit, hlimit]
  exact congrArg (fun ls => Text.concat (rows target (start target radius) ls)) (drop_take_congr h)

end Scan

namespace Scanner

open Scan (wordSize)
open Scan.Line (AgreeOn numbered? split)

variable {s : Scanner} {path content content' : String} {n : Nat} {c c' : Candidate}

/-- A line has one candidate at most. -/
theorem eq_of_line_eq (hc : c ∈ s.sightings path content) (hc' : c' ∈ s.sightings path content)
    (h : c.line = c'.line) : c = c' := by
  obtain ⟨line, hline, hsighting⟩ := mem_sightings_numbered.mp ⟨hc, rfl⟩
  obtain ⟨line', hline', hsighting'⟩ := mem_sightings_numbered.mp ⟨hc', h.symm⟩
  obtain rfl : line = line' := Option.some.inj (hline.symm.trans hline')
  exact Option.some.inj (hsighting.symm.trans hsighting')

/-- Texts that agree around a number have the same candidates of that number. -/
theorem mem_sightings_congr
    (hagree : AgreeOn content content' (max 1 (n - s.config.contextLines)) (n + s.config.contextLines))
    (path : String) (c : Candidate) :
    c ∈ s.sightings path content ∧ c.line = n ↔ c ∈ s.sightings path content' ∧ c.line = n := by
  rw [mem_sightings_numbered, mem_sightings_numbered]
  cases n with
  | zero => simp [numbered?]
  | succ n =>
    have hline : numbered? content (n + 1) = numbered? content' (n + 1) := by
      refine hagree (n + 1) ?_ ?_ <;> omega
    have hwindow : Scan.Window.plain (split content) n s.config.contextLines =
        Scan.Window.plain (split content') n s.config.contextLines := by
      refine Scan.Window.plain_congr fun i hfirst hlast => ?_
      exact hagree (i + 1) (by omega) (by omega)
    have hsighting : ∀ line, s.sighting? path (split content) n line =
        s.sighting? path (split content') n line := by
      intro line
      simp only [sighting?, claim, hwindow]
    rw [hline]
    simp only [Nat.add_sub_cancel, hsighting]

/-- An edit that is out of reach does not make a scan fail.  A window without an end reaches all lines of
a text that has no more lines than half the words; so no line with such a window is new. -/
theorem fits_of_agree (hn : 2 * n ≤ wordSize)
    (hagree : AgreeOn content content' (max 1 (n - s.config.contextLines)) (n + s.config.contextLines))
    (hlength : 2 * (split content').length ≤ wordSize) (hfits : s.Fits content) :
    s.Fits content' := by
  intro m line hline hclaimed
  obtain ⟨hpos, hm⟩ := Scan.Line.bounds_of_numbered? hline
  by_cases hreach : m ≤ n + s.config.contextLines ∧ n - s.config.contextLines ≤ m
  · have hsame := hagree m (by omega) hreach.1
    exact hfits m line (hsame.trans hline) hclaimed
  · omega

theorem reports_of_agree
    (hagree : AgreeOn content content' (max 1 (n - s.config.contextLines)) (n + s.config.contextLines))
    (hlength : 2 * (split content).length ≤ wordSize)
    (hlength' : 2 * (split content').length ≤ wordSize)
    (h : s.Reports path content c ∧ c.line = n) : s.Reports path content' c ∧ c.line = n := by
  rw [reports_iff, and_assoc] at h
  obtain ⟨hfits, hmem⟩ := h
  obtain ⟨line, hline, -⟩ := mem_sightings_numbered.mp hmem
  obtain ⟨-, hn⟩ := Scan.Line.bounds_of_numbered? hline
  rw [reports_iff, and_assoc]
  exact ⟨fits_of_agree (by omega) hagree hlength' hfits, (mem_sightings_congr hagree path c).mp hmem⟩

/-- **Code that was not changed is not judged again.**  Let two texts agree on the lines that the window
of a line reaches.  If both scans succeed, the line has a candidate in the one text exactly if it has one
in the other, and the two are the same in every field; so they have the same signature, whatever the rest
of the texts is.  And if the texts have no more lines than half the words, the scan of the one cannot fail
where the scan of the other reports the line. -/
theorem unchanged_window_kept
    (hagree : AgreeOn content content' (max 1 (n - s.config.contextLines)) (n + s.config.contextLines))
    (path : String) :
    (∀ cs cs', s.scanContent path content = .ok cs → s.scanContent path content' = .ok cs' →
      ((∃ c ∈ cs, c.line = n) ↔ ∃ c ∈ cs', c.line = n) ∧
      ∀ c ∈ cs, ∀ c' ∈ cs', c.line = n → c'.line = n → c = c' ∧ c.signature = c'.signature) ∧
    (2 * (split content).length ≤ wordSize → 2 * (split content').length ≤ wordSize →
      ((∃ c, s.Reports path content c ∧ c.line = n) ↔
        ∃ c, s.Reports path content' c ∧ c.line = n)) := by
  have hsame := mem_sightings_congr hagree path
  constructor
  · intro cs cs' hcs hcs'
    obtain ⟨-, rfl⟩ := scanContent_eq_ok_iff.mp hcs
    obtain ⟨-, rfl⟩ := scanContent_eq_ok_iff.mp hcs'
    refine ⟨exists_congr hsame, fun c hc c' hc' hn hn' => ?_⟩
    obtain ⟨hmem, -⟩ := (hsame c).mp ⟨hc, hn⟩
    obtain rfl := eq_of_line_eq hmem hc' (hn.trans hn'.symm)
    exact ⟨rfl, rfl⟩
  · intro hlength hlength'
    refine exists_congr fun c => ⟨?_, ?_⟩
    · exact reports_of_agree hagree hlength hlength'
    · exact reports_of_agree hagree.symm hlength' hlength

/-- A text with a call on its third line. -/
def draft : String := "let a\nlet b\neval(x)\nlet c\n"

/-- The text after an edit: the first line is another, and one more stands at the end. -/
def revision : String := "f(a)\nlet b\neval(x)\nlet c\ng(c)"

/-- A window of one line on either side of the call reaches neither edit. -/
theorem unchanged_window_kept_call :
    AgreeOn draft revision 2 4 ∧
      ∃ c c', (builtin narrow).Reports "main.js" draft c ∧
        (builtin narrow).Reports "main.js" revision c' ∧
          c.line = 3 ∧ c'.line = 3 ∧ c = c' ∧ c.signature = c'.signature := by
  have hagree : AgreeOn draft revision 2 4 := by
    intro m hfirst hlast
    obtain rfl | rfl | rfl : m = 2 ∨ m = 3 ∨ m = 4 := by omega
    all_goals decide
  have hcall : (builtin narrow).Reports "main.js" draft (callAt narrow "main.js" draft 2) :=
    reports_iff.mpr ⟨fits_of_length (by decide), call_mem_sightings rfl (by decide) (by decide) "main.js"⟩
  obtain ⟨hsame, hkept⟩ := unchanged_window_kept (s := builtin narrow) (n := 3) hagree "main.js"
  obtain ⟨c', hc', hline⟩ := (hkept (by decide) (by decide)).mp ⟨_, hcall, rfl⟩
  obtain ⟨cs, hcs, hmem⟩ := hcall
  obtain ⟨cs', hcs', hmem'⟩ := hc'
  exact ⟨hagree, _, c', ⟨cs, hcs, hmem⟩, ⟨cs', hcs', hmem'⟩, rfl, hline,
    (hsame cs cs' hcs hcs').2 _ hmem c' hmem' rfl hline⟩

end Scanner

end SinkAudit

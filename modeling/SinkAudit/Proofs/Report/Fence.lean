import SinkAudit.Classifier.Basic
import SinkAudit.Proofs.Scan.Content
import SinkAudit.Proofs.Scan.Readback
import SinkAudit.Report.Markdown

/-!
# Code between fences

The question about a candidate and the section of a finding show a window of the scanned text between
two fences.  The text is not to be trusted: a line of it may itself be a fence.  But every line is shown
in a row, and a row opens with blanks, a number and a bar; so a fence in the text stands behind a bar,
and the first line that closes the fence is the one that was written to close it.

In a section the window is trimmed.  This takes blanks from the first row and from the end of the last
one, and leaves every number and every bar.

* `IsRow`, `closes`: how a row opens, and what closes a fence.
* `Block`: rows with line feeds between them, `Block.trim` and `Block.exists_rows`.
* `Fenced`, `fenced_of_block`: a document that keeps its code between fences.
* `scanned_code_stays_fenced`: the code of every candidate does, in the question and in the section.
-/

namespace SinkAudit.Report.Fence

open Scan.Line (isTerminator splitChars)
open Scan.Window (Reading Shown shown visible)

/-! ## Rows and fences -/

/-- Whether a line closes a fence: blanks at most stand in front of three backticks. -/
def closes (line : List Char) : Bool :=
  ['`', '`', '`'].isPrefixOf (line.dropWhile Text.isBlank)

/-- A line that opens with blanks, the number `n` and a bar. -/
def IsRow (n : Nat) (line : List Char) : Prop :=
  ∃ k text, line = List.replicate k ' ' ++ ((toString n).toList ++ ' ' :: '|' :: text)

namespace IsRow

variable {n : Nat} {line : List Char}

/-- Only the blanks in front of the number are dropped. -/
theorem dropWhile_isBlank (h : IsRow n line) :
    ∃ text, line.dropWhile Text.isBlank = (toString n).toList ++ ' ' :: '|' :: text := by
  obtain ⟨k, text, rfl⟩ := h
  have hspaces : ∀ c ∈ List.replicate k ' ', Text.isBlank c = true := by
    intro c hc
    rw [(List.mem_replicate.mp hc).2]
    decide
  refine ⟨text, ?_⟩
  obtain ⟨c, cs, hn⟩ := List.exists_cons_of_ne_nil (Decimal.toList_toString_ne_nil n)
  have hc : Text.isBlank c = false :=
    Text.isBlank_of_isDigit (Decimal.isDigit_of_mem_toString (hn ▸ List.mem_cons_self))
  rw [List.dropWhile_append_of_pos hspaces, hn, List.cons_append,
    List.dropWhile_cons_of_neg (Bool.not_eq_true _ ▸ hc)]

/-- A row does not close a fence: its first character that is not blank is a digit. -/
theorem closes_eq_false (h : IsRow n line) : closes line = false := by
  obtain ⟨text, htext⟩ := h.dropWhile_isBlank
  obtain ⟨c, cs, hn⟩ := List.exists_cons_of_ne_nil (Decimal.toList_toString_ne_nil n)
  have hc : c ∈ (toString n).toList := hn ▸ List.mem_cons_self
  have hne : ('`' == c) = false := beq_false_of_ne (Decimal.ne_of_mem_toString hc (by decide)).symm
  rw [closes, htext, hn, List.cons_append, List.isPrefixOf, hne, Bool.false_and]

theorem append (h : IsRow n line) (t : List Char) : IsRow n (line ++ t) := by
  obtain ⟨k, text, rfl⟩ := h
  exact ⟨k, text ++ t, by simp only [List.append_assoc, List.cons_append]⟩

theorem trimStart (h : IsRow n line) : IsRow n (line.dropWhile Text.isBlank) := by
  obtain ⟨text, htext⟩ := h.dropWhile_isBlank
  exact ⟨0, text, htext⟩

theorem trimEnd (h : IsRow n line) : IsRow n (Text.dropEndWhile Text.isBlank line) := by
  obtain ⟨k, text, rfl⟩ := h
  refine ⟨k, Text.dropEndWhile Text.isBlank text, ?_⟩
  have hbar : Text.isBlank '|' = false := by decide
  have hmem : '|' ∈ ' ' :: '|' :: text := List.mem_cons_of_mem _ List.mem_cons_self
  have hend : Text.dropEndWhile Text.isBlank (' ' :: '|' :: text) =
      ' ' :: '|' :: Text.dropEndWhile Text.isBlank text := by
    rw [← List.singleton_append, Text.dropEndWhile_append_of_mem List.mem_cons_self hbar,
      Text.dropEndWhile_cons hbar, List.singleton_append]
  rw [Text.dropEndWhile_append_of_mem (List.mem_append_right _ hmem) hbar,
    Text.dropEndWhile_append_of_mem hmem hbar, hend]

/-- A row has a character that is not blank. -/
theorem bar_mem (h : IsRow n line) : '|' ∈ line := by
  obtain ⟨k, text, rfl⟩ := h
  exact List.mem_append_right _
    (List.mem_append_right _ (List.mem_cons_of_mem _ List.mem_cons_self))

end IsRow

/-! ## Blocks of rows -/

/-- Rows with the numbers from `n` on, with line feeds between them and none behind the last. -/
inductive Block : Nat → List Char → Prop
  | last {n row} (hrow : IsRow n row) (hfree : ∀ c ∈ row, isTerminator c = false) : Block n row
  | cons {n row rest} (hrow : IsRow n row) (hfree : ∀ c ∈ row, isTerminator c = false)
      (h : Block (n + 1) rest) : Block n (row ++ '\n' :: rest)

namespace Block

variable {n : Nat} {code : List Char}

/-- The lines of a block that is closed by a line feed, in front of whatever follows. -/
theorem exists_rows (h : Block n code) (t : List Char) :
    ∃ rows, splitChars (code ++ '\n' :: t) = rows ++ splitChars t ∧ rows ≠ [] ∧
      ∀ k line, rows[k]? = some line → IsRow (n + k) line := by
  induction h with
  | @last n row hrow hfree =>
    refine ⟨[row ++ ['\n']], Scan.Line.splitChars_closed hfree t, List.cons_ne_nil _ _, ?_⟩
    intro k line hk
    obtain ⟨rfl, rfl⟩ : k = 0 ∧ row ++ ['\n'] = line := by
      rwa [List.getElem?_singleton, Option.ite_none_right_eq_some, Option.some.injEq] at hk
    exact hrow.append _
  | @cons n row rest hrow hfree _ ih =>
    obtain ⟨rows, hsplit, -, hrows⟩ := ih
    refine ⟨(row ++ ['\n']) :: rows, ?_, List.cons_ne_nil _ _, ?_⟩
    · rw [List.append_assoc, List.cons_append, Scan.Line.splitChars_closed hfree, hsplit,
        List.cons_append]
    · intro k line hk
      cases k with
      | zero =>
        rw [← Option.some.inj hk]
        exact hrow.append _
      | succ k =>
        have hnext := hrows k line hk
        rwa [Nat.add_assoc, Nat.add_comm 1 k] at hnext

theorem bar_mem (h : Block n code) : '|' ∈ code := by
  cases h with
  | last hrow _ => exact hrow.bar_mem
  | cons hrow _ _ => exact List.mem_append_left _ hrow.bar_mem

/-- Blanks are dropped from the first row only. -/
theorem trimStart (h : Block n code) : Block n (code.dropWhile Text.isBlank) := by
  have hfree {row : List Char} (hrow : ∀ c ∈ row, isTerminator c = false) :
      ∀ c ∈ row.dropWhile Text.isBlank, isTerminator c = false :=
    fun c hc => hrow c ((List.dropWhile_suffix _).subset hc)
  cases h with
  | last hrow hterm => exact .last hrow.trimStart (hfree hterm)
  | cons hrow hterm hrest =>
    have hkept := hrow.trimStart.bar_mem
    rw [List.dropWhile_append, if_neg]
    · exact .cons hrow.trimStart (hfree hterm) hrest
    · rw [List.isEmpty_iff]
      exact List.ne_nil_of_mem hkept

/-- Blanks are dropped from the last row only. -/
theorem trimEnd (h : Block n code) : Block n (Text.dropEndWhile Text.isBlank code) := by
  induction h with
  | @last n row hrow hfree =>
    refine .last hrow.trimEnd fun c hc => ?_
    obtain ⟨t, ht, -⟩ := Text.exists_append_dropEndWhile Text.isBlank row
    exact hfree c (ht ▸ List.mem_append_left t hc)
  | @cons n row rest hrow hfree hrest ih =>
    have hbar : Text.isBlank '|' = false := by decide
    have hsplit : row ++ '\n' :: rest = (row ++ ['\n']) ++ rest := by
      rw [List.append_assoc, List.singleton_append]
    rw [hsplit, Text.dropEndWhile_append_of_mem hrest.bar_mem hbar, List.append_assoc,
      List.singleton_append]
    exact .cons hrow hfree ih

/-- Trimming leaves a block of rows with the same numbers. -/
theorem trim (h : Block n code) : Block n (Text.trimChars code) :=
  h.trimStart.trimEnd

end Block

/-! ## Windows -/

/-- What stands in front of the end of a row. -/
theorem exists_row (x : Shown) (hfree : ∀ c ∈ x.text, isTerminator c = false) :
    ∃ row, x.render = row ++ (if x.closed then ['\n'] else []) ∧ IsRow x.number row ∧
      ∀ c ∈ row, isTerminator c = false := by
  refine ⟨x.reading.written, x.render_eq, ?_, fun c hc => ?_⟩
  · rw [Reading.written, Scan.Window.toList_padLeft, List.append_assoc]
    exact ⟨_, _, rfl⟩
  · rw [← Bool.not_eq_true]
    intro hterm
    have hmem : c ∉ x.text := fun hmem => absurd ((hfree c hmem).symm.trans hterm) (by decide)
    exact Reading.notMem_written hterm hmem hc

/-- The rows for a run of lines are a block, behind which a line feed may stand. -/
theorem exists_block_shown (target : Nat) {ls : List String} (hne : ls ≠ [])
    (hfree : ∀ l ∈ ls, ∀ c ∈ (Scan.Line.body l).toList, isTerminator c = false)
    (hclosed : ls.Pairwise fun l _ => Scan.Line.isClosed l = true) (i : Nat) :
    ∃ code feed, (shown target i ls).flatMap Shown.render = code ++ feed ∧ Block (i + 1) code ∧
      (feed = [] ∨ feed = ['\n']) := by
  induction ls generalizing i with
  | nil => exact absurd rfl hne
  | cons l ls ih =>
    obtain ⟨hl, hls⟩ := List.forall_mem_cons.mp hfree
    obtain ⟨hfirst, hrest⟩ := List.pairwise_cons.mp hclosed
    obtain ⟨row, hrender, hrow, hterm⟩ := exists_row (Shown.ofLine target i l)
      (by rwa [Shown.text_ofLine])
    rw [shown, List.flatMap_cons, hrender]
    cases ls with
    | nil =>
      refine ⟨row, _, List.append_nil _, .last hrow hterm, ?_⟩
      split
      · exact Or.inr rfl
      · exact Or.inl rfl
    | cons l' ls =>
      obtain ⟨code, feed, hcode, hblock, hfeed⟩ := ih (List.cons_ne_nil _ _) hls hrest (i + 1)
      have hend : (Shown.ofLine target i l).closed = true := hfirst l' List.mem_cons_self
      refine ⟨row ++ '\n' :: code, feed, ?_, .cons hrow hterm hblock, hfeed⟩
      rw [hend, if_pos rfl, hcode, List.append_assoc, List.append_assoc, List.singleton_append,
        List.cons_append]

/-- The window of a candidate is a block, behind which a line feed may stand. -/
theorem exists_block_snippet {s : Scanner} {path content : String} {c : Candidate}
    (hc : c ∈ s.sightings path content) :
    ∃ code feed, c.snippet.toList = code ++ feed ∧
      Block (c.line - 1 - s.config.contextLines + 1) code ∧ (feed = [] ∨ feed = ['\n']) := by
  obtain ⟨index, line, hline, hsighting⟩ := Scanner.mem_sightings.mp hc
  obtain ⟨-, rule, pattern, -, rfl⟩ := Scanner.sighting?_eq_some_iff.mp hsighting
  have hsub : List.Sublist (((Scan.Line.split content).take (Scan.Window.limit index
      s.config.contextLines (Scan.Line.split content).length)).drop (Scan.Window.start index
      s.config.contextLines)) (Scan.Line.split content) :=
    (List.drop_sublist _ _).trans (List.take_sublist _ _)
  have hshown := Scan.Window.target_mem_visible hline s.config.contextLines
  have hsnippet := Scan.Window.toList_plain (Scan.Line.split content) index s.config.contextLines
  rw [visible] at hshown hsnippet
  obtain ⟨k, shownLine, hk, -⟩ := Scan.Window.mem_shown.mp hshown
  rw [Scanner.claim, hsnippet]
  exact exists_block_shown index (List.ne_nil_of_mem (List.mem_of_getElem? hk))
    (fun l hl c hc => Scan.Line.isTerminator_of_mem_body (hsub.subset hl) hc)
    ((Scan.Line.pairwise_isClosed content).sublist hsub) (index - s.config.contextLines)

/-! ## Documents -/

/-- A document shows code between fences and keeps it there.  Behind the opener stand rows with the
numbers from `first` on, then `gap`, and then the fence that the document puts in front of `tail`; and
this fence is the first line that closes the code. -/
structure Fenced (document head code tail : String) (first : Nat) (gap : List (List Char)) :
    Prop where
  eq : document = head ++ "```javascript\n" ++ code ++ "\n```" ++ tail
  lines : ∃ rows, splitChars (code ++ "\n```" ++ tail).toList =
      rows ++ gap ++ splitChars ("```" ++ tail).toList ∧
    rows ≠ [] ∧ (∀ k line, rows[k]? = some line → IsRow (first + k) line) ∧
    ∀ line ∈ rows ++ gap, closes line = false
  closed : (splitChars ("```" ++ tail).toList).head?.map closes = some true

theorem splitChars_replicate_append (k : Nat) (t : List Char) :
    splitChars (List.replicate k '\n' ++ t) = List.replicate k ['\n'] ++ splitChars t := by
  induction k with
  | zero => rfl
  | succ k ih =>
    rw [List.replicate_succ, List.cons_append, splitChars, ih, List.replicate_succ,
      List.cons_append]

/-- A block of rows stays between its fences, also if further line feeds stand behind it. -/
theorem fenced_of_block {document head code tail : String} {first feeds : Nat} {block : List Char}
    (hcode : code.toList = block ++ List.replicate feeds '\n') (hblock : Block first block)
    (htail : tail.toList.head? = some '\n')
    (heq : document = head ++ "```javascript\n" ++ code ++ "\n```" ++ tail) :
    Fenced document head code tail first (List.replicate feeds ['\n']) := by
  have hopen : "\n```".toList = '\n' :: "```".toList := rfl
  have hfence : "```".toList = ['`', '`', '`'] := rfl
  have hbehind : (code ++ "\n```" ++ tail).toList =
      block ++ '\n' :: (List.replicate feeds '\n' ++ ("```" ++ tail).toList) := by
    have hfeeds : List.replicate feeds '\n' ++ '\n' :: ("```".toList ++ tail.toList) =
        '\n' :: (List.replicate feeds '\n' ++ ("```".toList ++ tail.toList)) := by
      rw [List.append_cons, ← List.replicate_succ', List.replicate_succ, List.cons_append]
    rw [String.toList_append, String.toList_append, String.toList_append, hcode, hopen,
      List.append_assoc, List.append_assoc, List.cons_append, hfeeds]
  obtain ⟨rows, hsplit, hne, hrows⟩ :=
    hblock.exists_rows (List.replicate feeds '\n' ++ ("```" ++ tail).toList)
  refine ⟨heq, ⟨rows, ?_, hne, hrows, ?_⟩, ?_⟩
  · rw [hbehind, hsplit, splitChars_replicate_append, List.append_assoc]
  · refine List.forall_mem_append.mpr ⟨fun line hline => ?_, fun line hline => ?_⟩
    · obtain ⟨k, hk⟩ := List.mem_iff_getElem?.mp hline
      exact (hrows k line hk).closes_eq_false
    · rw [(List.mem_replicate.mp hline).2]
      decide
  · obtain ⟨rest, hrest⟩ := List.head?_eq_some_iff.mp htail
    have hfree : ∀ c ∈ ['`', '`', '`'], isTerminator c = false := by
      intro c hc
      rw [List.eq_of_mem_replicate (n := 3) hc]
      decide
    rw [String.toList_append, hrest, hfence, Scan.Line.splitChars_closed hfree, List.head?_cons]
    decide

/-- The section of a finding up to its code. -/
def sectionHead (number : Nat) (f : Finding) : String :=
  "### " ++ toString number ++ ". " ++ Markdown.icon f.severity ++ " " ++ f.candidate.vulnName ++
  "\n\n" ++ "- **Location:** `" ++ f.location ++ "`\n" ++
  "- **Severity:** " ++ f.severity.name ++ "\n" ++
  "- **Confidence:** High (AI Verified)\n\n" ++
  "#### 📝 Analysis\n" ++ f.analysis ++ "\n\n" ++
  "#### 💻 Vulnerable Code\n"

/-- The section of a finding after its code. -/
def sectionTail (f : Finding) : String :=
  "\n\n" ++ ("#### 🛠️ Suggested Fix\n" ++ f.fix ++ "\n\n" ++ "---\n\n")

theorem findingSection_eq (number : Nat) (f : Finding) :
    Markdown.findingSection number f = sectionHead number f ++ "```javascript\n" ++
      Text.trim f.candidate.snippet ++ "\n```" ++ sectionTail f := by
  unfold Markdown.findingSection Markdown.codeBlock sectionHead sectionTail
  simp only [String.append_assoc]

theorem head?_append {s : String} {c : Char} (h : s.toList.head? = some c) (t : String) :
    (s ++ t).toList.head? = some c := by
  rw [String.toList_append, List.head?_append, h, Option.some_or]

theorem head?_promptTail : Request.promptTail.toList.head? = some '\n' := by
  unfold Request.promptTail
  simp only [String.append_assoc, -String.reduceAppend]
  exact head?_append (by decide) _

/-- **Scanned code stays between its fences.**  In the question about a candidate, and in the section of
every finding that is made of it, the lines behind the opener are rows of the window: blanks, the number
of the line and a bar stand before anything that was scanned.  The first line that closes the fence is
the one that was written behind the code.  In the question the code is not trimmed, so a line feed at its
end leaves an empty line in front of that one. -/
theorem scanned_code_stays_fenced {s : Scanner} {path content : String} {c : Candidate}
    (hc : s.Reports path content c) :
    (∀ rule, ∃ gap, (gap = [] ∨ gap = [['\n']]) ∧
      Fenced (Request.ofCandidate c rule).prompt (Request.ofCandidate c rule).promptHead c.snippet
        Request.promptTail (c.line - 1 - s.config.contextLines + 1) gap) ∧
    ∀ number v f, Finding.confirm c v = some f →
      Fenced (Markdown.findingSection number f) (sectionHead number f) (Text.trim c.snippet)
        (sectionTail f) (c.line - 1 - s.config.contextLines + 1) [] := by
  obtain ⟨block, feed, hsnippet, hblock, hfeed⟩ :=
    exists_block_snippet (Scanner.reports_iff.mp hc).2
  constructor
  · intro rule
    have hfenced (feeds : Nat) (h : feed = List.replicate feeds '\n') :
        Fenced (Request.ofCandidate c rule).prompt (Request.ofCandidate c rule).promptHead c.snippet
          Request.promptTail (c.line - 1 - s.config.contextLines + 1)
          (List.replicate feeds ['\n']) :=
      fenced_of_block (h ▸ hsnippet) hblock head?_promptTail rfl
    rcases hfeed with hnone | hone
    · exact ⟨_, Or.inl rfl, hfenced 0 hnone⟩
    · exact ⟨_, Or.inr rfl, hfenced 1 hone⟩
  · intro number v f hf
    have hcandidate : f.candidate = c := by
      rw [Finding.confirm, Option.ite_none_right_eq_some] at hf
      rw [← Option.some.inj hf.2]
    have hblank : ∀ d ∈ feed, Text.isBlank d = true := by
      rcases hfeed with rfl | rfl
      · exact fun d hd => absurd hd List.not_mem_nil
      · exact List.all_eq_true.mp (by decide)
    have htrim : (Text.trim c.snippet).toList = Text.trimChars block ++ List.replicate 0 '\n' := by
      rw [Text.toList_trim, hsnippet, Text.trimChars_append hblank, List.replicate_zero,
        List.append_nil]
    have htail : (sectionTail f).toList.head? = some '\n' := head?_append (by decide) _
    exact fenced_of_block htrim hblock.trim htail (hcandidate ▸ findingSection_eq number f)

/-- A call between two lines that are fences. -/
def fencedCall : String := "```\neval(x)\n```\n"

theorem scanned_code_stays_fenced_call :
    (Scanner.builtin {}).Reports "a.js" fencedCall (Scanner.callAt {} "a.js" fencedCall 1) ∧
      Fenced (Markdown.findingSection 1 ⟨Scanner.callAt {} "a.js" fencedCall 1, .high, "tainted", ""⟩)
        (sectionHead 1 ⟨Scanner.callAt {} "a.js" fencedCall 1, .high, "tainted", ""⟩)
        (Text.trim (Scanner.callAt {} "a.js" fencedCall 1).snippet)
        (sectionTail ⟨Scanner.callAt {} "a.js" fencedCall 1, .high, "tainted", ""⟩) 1 [] := by
  have hcall : (Scanner.builtin {}).Reports "a.js" fencedCall (Scanner.callAt {} "a.js" fencedCall 1) :=
    Scanner.reports_iff.mpr ⟨Scanner.fits_of_length (by decide),
      Scanner.call_mem_sightings rfl (by decide) (by decide) "a.js"⟩
  exact ⟨hcall, (scanned_code_stays_fenced hcall).2 1 ⟨true, .high, "tainted", ""⟩ _ rfl⟩

end SinkAudit.Report.Fence

import SinkAudit.Proofs.Rule.Catalog
import SinkAudit.Proofs.Scan.Window
import SinkAudit.Scan.Content

/-!
# The candidates of a text

Every candidate comes from one line of its text, and it says what the rule that claimed the line
found there.

A scan fails if the window of some line that is claimed has no end, and in no other way.  Apart from that
it gives the candidates with the plain windows.  So the candidates are looked at as sightings, of which
there is a list for every text, and the scan is this list behind a condition.

* `Scanner.claimed?`: what claims a line; `Scanner.sighting?`, `Scanner.sightings`: the candidates with
  plain windows.
* `Scanner.Fits`: the condition; `scanContent_of_fits`, `scanContent_of_not_fits`: the scan.
* `mem_sightings`, `mem_sightings_numbered`: the candidates of a text are those of its lines.
* `pairwise_sightings`: they are in the order of the lines.
* `Scanner.Reports`: the candidates of a scan that succeeds.
* `call_mem_sightings`: a line that a built-in rule claims, in whatever text.
-/

namespace SinkAudit.Scanner

open Scan (wordSize)
open Scan.Line (numbered? split)

variable {s : Scanner} {path content : String} {lines : List String} {c : Candidate}

/-! ## Sightings -/

/-- The rule that claims a line, with the pattern that it finds there. -/
def claimed? (s : Scanner) (line : String) : Option (Rule × String) :=
  if s.skips (Text.trim line) then none else s.catalog.matchLine line

/-- The candidate that a rule makes of a line by one of its patterns. -/
def claim (s : Scanner) (path : String) (lines : List String) (index : Nat) (line : String)
    (rule : Rule) (pattern : String) : Candidate :=
  ⟨path, index + 1, rule.id, rule.name, Scan.Window.plain lines index s.config.contextLines,
    pattern, Text.trim line⟩

/-- The candidate of a line, whatever the sum for its window is. -/
def sighting? (s : Scanner) (path : String) (lines : List String) (index : Nat) (line : String) :
    Option Candidate :=
  (s.claimed? line).map fun found => s.claim path lines index line found.1 found.2

/-- The candidates of a text, whatever the sums for their windows are. -/
def sightings (s : Scanner) (path content : String) : List Candidate :=
  (split content).zipIdx.filterMap fun x => s.sighting? path (split content) x.2 x.1

theorem claimed?_eq_some_iff {line : String} {rule : Rule} {pattern : String} :
    s.claimed? line = some (rule, pattern) ↔
      s.skips (Text.trim line) = false ∧ s.catalog.matchLine line = some (rule, pattern) := by
  rw [claimed?]
  cases s.skips (Text.trim line) with
  | true => simp
  | false => simp

theorem sighting?_eq_some_iff {index : Nat} {line : String} :
    s.sighting? path lines index line = some c ↔
      s.skips (Text.trim line) = false ∧ ∃ rule pattern,
        s.catalog.matchLine line = some (rule, pattern) ∧
          c = s.claim path lines index line rule pattern := by
  rw [sighting?, Option.map_eq_some_iff]
  constructor
  · rintro ⟨⟨rule, pattern⟩, hclaimed, rfl⟩
    obtain ⟨hskip, hmatch⟩ := claimed?_eq_some_iff.mp hclaimed
    exact ⟨hskip, rule, pattern, hmatch, rfl⟩
  · rintro ⟨hskip, rule, pattern, hmatch, rfl⟩
    exact ⟨(rule, pattern), claimed?_eq_some_iff.mpr ⟨hskip, hmatch⟩, rfl⟩

/-- A candidate has the number of its line. -/
theorem line_of_sighting? {index : Nat} {line : String}
    (h : s.sighting? path lines index line = some c) : c.line = index + 1 := by
  obtain ⟨-, rule, pattern, -, rfl⟩ := sighting?_eq_some_iff.mp h
  rfl

/-- A candidate of a text is the candidate of one of its lines. -/
theorem mem_sightings :
    c ∈ s.sightings path content ↔
      ∃ index line, (split content)[index]? = some line ∧
        s.sighting? path (split content) index line = some c := by
  rw [sightings, List.mem_filterMap]
  constructor
  · rintro ⟨⟨line, index⟩, hmem, hsighting⟩
    exact ⟨index, line, List.mk_mem_zipIdx_iff_getElem?.mp hmem, hsighting⟩
  · rintro ⟨index, line, hline, hsighting⟩
    exact ⟨(line, index), List.mk_mem_zipIdx_iff_getElem?.mpr hline, hsighting⟩

/-- A candidate with a number is the candidate of the line with that number. -/
theorem mem_sightings_numbered {n : Nat} :
    c ∈ s.sightings path content ∧ c.line = n ↔
      ∃ line, numbered? content n = some line ∧
        s.sighting? path (split content) (n - 1) line = some c := by
  rw [mem_sightings]
  constructor
  · rintro ⟨⟨index, line, hline, hsighting⟩, rfl⟩
    rw [line_of_sighting? hsighting]
    exact ⟨line, hline, hsighting⟩
  · rintro ⟨line, hline, hsighting⟩
    cases n with
    | zero => exact absurd hline (by simp [numbered?])
    | succ n => exact ⟨⟨n, line, hline, hsighting⟩, line_of_sighting? hsighting⟩

/-- The candidates of a text are in the order of the lines. -/
theorem pairwise_sightings (s : Scanner) (path content : String) :
    (s.sightings path content).Pairwise fun c d => c.line < d.line := by
  have hindices : (split content).zipIdx.Pairwise fun x y => x.2 < y.2 := by
    refine List.pairwise_map.mp ?_
    rw [List.zipIdx_map_snd]
    exact List.pairwise_lt_range'
  rw [sightings, List.pairwise_filterMap]
  refine hindices.imp fun {x y} hxy c hc d hd => ?_
  rw [line_of_sighting? hc, line_of_sighting? hd]
  omega

/-! ## The scan -/

/-- The windows of all lines of a text that are claimed have an end. -/
def Fits (s : Scanner) (content : String) : Prop :=
  ∀ n line, numbered? content n = some line → (s.claimed? line).isSome →
    n + s.config.contextLines < wordSize

theorem scanLine_of_none {line : String} (h : s.claimed? line = none) (path : String)
    (lines : List String) (index : Nat) : s.scanLine path lines index line = .ok none := by
  rw [claimed?] at h
  rw [scanLine]
  split
  case isTrue => rfl
  case isFalse hskip =>
    rw [if_neg hskip] at h
    rw [h]

theorem scanLine_of_some {line : String} {rule : Rule} {pattern : String}
    (h : s.claimed? line = some (rule, pattern)) (path : String) (lines : List String) (index : Nat) :
    s.scanLine path lines index line =
      (Scan.contextWindow lines index s.config.contextLines).map fun snippet =>
        some ⟨path, index + 1, rule.id, rule.name, snippet, pattern, Text.trim line⟩ := by
  obtain ⟨hskip, hmatch⟩ := claimed?_eq_some_iff.mp h
  rw [scanLine, hskip, if_neg Bool.false_ne_true, hmatch]

/-- A line gives its sighting, if its window has an end or nothing claims it. -/
theorem scanLine_eq_ok {index : Nat} {line : String}
    (h : (s.claimed? line).isSome → index + s.config.contextLines + 1 < wordSize) (path : String)
    (lines : List String) :
    s.scanLine path lines index line = .ok (s.sighting? path lines index line) := by
  rw [sighting?]
  cases hclaimed : s.claimed? line with
  | none => exact scanLine_of_none hclaimed path lines index
  | some found =>
    rw [hclaimed] at h
    rw [scanLine_of_some hclaimed, Scan.Window.contextWindow_of_lt (h rfl)]
    rfl

theorem scanLine_eq_error {index : Nat} {line : String} (hclaimed : (s.claimed? line).isSome)
    (h : wordSize ≤ index + s.config.contextLines + 1) (path : String) (lines : List String) :
    s.scanLine path lines index line = .error .overflow := by
  obtain ⟨⟨rule, pattern⟩, hfound⟩ := Option.isSome_iff_exists.mp hclaimed
  rw [scanLine_of_some hfound, Scan.Window.contextWindow_of_le h]
  rfl

/-- A scan that fits gives the sightings. -/
theorem scanContent_of_fits (h : s.Fits content) (path : String) :
    s.scanContent path content = .ok (s.sightings path content) := by
  have hline : ∀ x ∈ (split content).zipIdx,
      (s.scanLine path (split content) x.2 x.1).map Option.toList =
        .ok (s.sighting? path (split content) x.2 x.1).toList := by
    intro x hx
    rw [scanLine_eq_ok fun hclaimed => ?_]
    · rfl
    · have hbound := h (x.2 + 1) x.1 (List.mem_zipIdx_iff_getElem?.mp hx) hclaimed
      omega
  rw [scanContent, gather_eq_ok hline, sightings, List.filterMap_eq_flatMap_toList]

/-- A scan that does not fit overflows. -/
theorem scanContent_of_not_fits (h : ¬s.Fits content) (path : String) :
    s.scanContent path content = .error .overflow := by
  have hline : ∀ x ∈ (split content).zipIdx,
      (s.scanLine path (split content) x.2 x.1).map Option.toList =
          .ok (s.sighting? path (split content) x.2 x.1).toList ∨
        (s.scanLine path (split content) x.2 x.1).map Option.toList = .error .overflow := by
    intro x _
    by_cases hx : (s.claimed? x.1).isSome → x.2 + s.config.contextLines + 1 < wordSize
    · rw [scanLine_eq_ok hx]
      exact Or.inl rfl
    · rw [Classical.not_imp, Nat.not_lt] at hx
      rw [scanLine_eq_error hx.1 hx.2]
      exact Or.inr rfl
  rw [scanContent]
  refine gather_eq_error hline ?_
  simp only [Fits, not_forall, Nat.not_lt] at h
  obtain ⟨n, line, hnumber, hclaimed, hbound⟩ := h
  cases n with
  | zero => exact absurd hnumber (by simp [numbered?])
  | succ n =>
    refine ⟨(line, n), List.mk_mem_zipIdx_iff_getElem?.mpr hnumber, ?_⟩
    rw [scanLine_eq_error hclaimed (by omega)]
    rfl

/-- A scan succeeds if it fits, and only then. -/
theorem scanContent_eq_ok_iff {cs : List Candidate} :
    s.scanContent path content = .ok cs ↔ s.Fits content ∧ cs = s.sightings path content := by
  by_cases h : s.Fits content
  · rw [scanContent_of_fits h, Except.ok.injEq, eq_comm]
    exact (and_iff_right h).symm
  · rw [scanContent_of_not_fits h]
    exact iff_of_false (by simp) fun hand => h hand.1

theorem exists_scanContent_iff : (∃ cs, s.scanContent path content = .ok cs) ↔ s.Fits content := by
  simp only [scanContent_eq_ok_iff, exists_and_left, exists_eq, and_true]

/-- A scan fails in one way only. -/
theorem eq_overflow_of_scanContent {e : Error} (h : s.scanContent path content = .error e) :
    e = .overflow := by
  by_cases hfits : s.Fits content
  · rw [scanContent_of_fits hfits] at h
    simp at h
  · rw [scanContent_of_not_fits hfits, Except.error.injEq] at h
    exact h.symm

/-- The condition, by the candidates. -/
theorem fits_iff (s : Scanner) (path content : String) :
    s.Fits content ↔
      ∀ c ∈ s.sightings path content, c.line + s.config.contextLines < wordSize := by
  constructor
  · intro h c hc
    obtain ⟨line, hline, hsighting⟩ := mem_sightings_numbered.mp ⟨hc, rfl⟩
    refine h c.line line hline ?_
    rw [← Option.isSome_map, ← sighting?, hsighting]
    rfl
  · intro h n line hline hclaimed
    have hsome : (s.sighting? path (split content) (n - 1) line).isSome := by
      rwa [sighting?, Option.isSome_map]
    obtain ⟨c, hsighting⟩ := Option.isSome_iff_exists.mp hsome
    obtain ⟨hc, rfl⟩ := mem_sightings_numbered.mpr ⟨line, hline, hsighting⟩
    exact h c hc

/-- A text of few lines fits. -/
theorem fits_of_length (h : (split content).length + s.config.contextLines < wordSize) :
    s.Fits content := by
  intro n line hline _
  obtain ⟨-, hle⟩ := Scan.Line.bounds_of_numbered? hline
  omega

/-- Texts of which a scanner sees the same give the same scan. -/
theorem scanContent_congr {path' content' : String}
    (h : s.sightings path content = s.sightings path' content') :
    s.scanContent path content = s.scanContent path' content' := by
  have hfits : s.Fits content ↔ s.Fits content' := by
    rw [fits_iff s path, fits_iff s path', h]
  by_cases hs : s.Fits content
  · rw [scanContent_of_fits hs, scanContent_of_fits (hfits.mp hs), h]
  · rw [scanContent_of_not_fits hs, scanContent_of_not_fits fun hs' => hs (hfits.mpr hs')]

/-- The scan succeeds, and the candidate is among those that it gives. -/
def Reports (s : Scanner) (path content : String) (c : Candidate) : Prop :=
  ∃ cs, s.scanContent path content = .ok cs ∧ c ∈ cs

theorem reports_iff : s.Reports path content c ↔ s.Fits content ∧ c ∈ s.sightings path content := by
  rw [Reports]
  simp only [scanContent_eq_ok_iff]
  constructor
  · rintro ⟨cs, ⟨hfits, rfl⟩, hc⟩
    exact ⟨hfits, hc⟩
  · rintro ⟨hfits, hc⟩
    exact ⟨_, ⟨hfits, rfl⟩, hc⟩

/-! ## A line that is claimed -/

/-- What a built-in rule finds in a call. -/
theorem matchLine_call :
    (Catalog.builtin.matchLine "eval(x)\n").map (fun m => (m.1.id, m.1.name, m.2)) =
      some ("CODE_INJECTION", "Code Injection", "eval\\(") := by
  rw [Catalog.builtin_eq]
  decide +kernel

/-- A call on the line with a given index, as the built-in rules claim it. -/
def callAt (config : ScanConfig) (path content : String) (index : Nat) : Candidate :=
  ⟨path, index + 1, "CODE_INJECTION", "Code Injection",
    Scan.Window.plain (split content) index config.contextLines, "eval\\(", "eval(x)"⟩

/-- A call is claimed wherever it stands, if no rule is disabled and it is not taken for minified. -/
theorem call_mem_sightings {config : ScanConfig} {index : Nat}
    (hrules : config.disabledRules = []) (hlength : 7 ≤ config.maxLineLength)
    (hline : (split content)[index]? = some "eval(x)\n") (path : String) :
    callAt config path content index ∈ (builtin config).sightings path content := by
  refine mem_sightings.mpr ⟨index, "eval(x)\n", hline, ?_⟩
  have htrim : Text.trim "eval(x)\n" = "eval(x)" := by decide
  have hskip : (builtin config).skips (Text.trim "eval(x)\n") = false := by
    have hshort : ¬config.maxLineLength < "eval(x)".length := Nat.not_lt.mpr hlength
    rw [htrim, skips, Scan.Line.isMinified]
    exact Bool.or_eq_false_iff.mpr ⟨rfl, decide_eq_false hshort⟩
  have hall : (builtin config).catalog.matchLine "eval(x)\n" =
      Catalog.builtin.matchLine "eval(x)\n" := by
    rw [builtin, hrules]
    exact congrArg (fun c : Catalog => c.matchLine "eval(x)\n") Catalog.without_nil
  obtain ⟨⟨rule, pattern⟩, hmatch, hfound⟩ := Option.map_eq_some_iff.mp matchLine_call
  obtain ⟨hid, hname, hpattern⟩ : rule.id = "CODE_INJECTION" ∧ rule.name = "Code Injection" ∧
      pattern = "eval\\(" := by
    simpa only [Prod.mk.injEq] using hfound
  refine sighting?_eq_some_iff.mpr ⟨hskip, rule, pattern, hall.trans hmatch, ?_⟩
  rw [callAt, claim, hid, hname, hpattern, htrim, builtin]

end SinkAudit.Scanner

import SinkAudit.Proofs.Pattern.Language
import SinkAudit.Proofs.Scan.Content

/-!
# What a scan finds

A line is reported when it is code of ordinary length and some pattern of some rule occurs in it.
Whether it is code and how long it is are judged on the trimmed line, but a pattern has to occur in the
line as it stands.  A line is reported once: for the first rule of the catalog that has a pattern which
occurs there, and with the first such pattern of that rule.

There is no scan where the window of such a line has no end, however far the others reach.

All of this is said without the search.  A pattern occurs in a line when some part of the line belongs
to its language, and the first of a list is an item with nothing of its kind in front of it.  So the
statement leaves no room: no sink is missed, nothing else is reported, and what is said of a line is
determined by the line, its window and the order of the catalog.

* `IsFirst`: the first item of a list that has a property.
* `Catalog.matchLine_eq_some_iff`, `Catalog.matchLine_eq_none_iff`: what a catalog finds in a line.
* `Scanner.IsSink`: the lines that are to be reported.
* `Scanner.scanContent_exact`: the candidates of a text.
-/

namespace SinkAudit

/-! ## The first that occurs -/

/-- The first item of a list that has a property. -/
def IsFirst {α : Type} (P : α → Prop) (l : List α) (a : α) : Prop :=
  P a ∧ ∃ before after, l = before ++ a :: after ∧ ∀ b ∈ before, ¬ P b

theorem IsFirst.mem {α : Type} {P : α → Prop} {l : List α} {a : α} (h : IsFirst P l a) : a ∈ l := by
  obtain ⟨-, before, after, rfl, -⟩ := h
  exact List.mem_append_right before List.mem_cons_self

/-- The pattern occurs in a line. -/
def SinkPattern.OccursIn (p : SinkPattern) (line : String) : Prop :=
  p.expr.Occurs line.toList

/-- Some pattern of the rule occurs in a line. -/
def Rule.OccursIn (r : Rule) (line : String) : Prop :=
  ∃ p ∈ r.patterns, p.OccursIn line

theorem Rule.matchingPattern_eq_some_iff {r : Rule} {line source : String} :
    r.matchingPattern line = some source ↔
      ∃ p, IsFirst (·.OccursIn line) r.patterns p ∧ p.source = source := by
  have hfirst : ∀ p, (r.patterns.find? fun q => q.expr.isMatch line) = some p ↔
      IsFirst (·.OccursIn line) r.patterns p := by
    intro p
    rw [List.find?_eq_some_iff_append, IsFirst, SinkPattern.OccursIn, Pattern.isMatch_iff]
    simp only [Bool.not_eq_true', ← Bool.not_eq_true, Pattern.isMatch_iff, SinkPattern.OccursIn]
  rw [matchingPattern, Option.map_eq_some_iff]
  simp only [hfirst]

theorem Rule.matchingPattern_eq_none_iff {r : Rule} {line : String} :
    r.matchingPattern line = none ↔ ¬ r.OccursIn line := by
  rw [matchingPattern, Option.map_eq_none_iff, List.find?_eq_none, OccursIn]
  simp only [Pattern.isMatch_iff, SinkPattern.OccursIn, not_exists, not_and]

namespace Catalog

variable {c : Catalog} {line : String}

/-- A catalog finds the first of its rules that has a pattern in a line, with the first such pattern. -/
theorem matchLine_eq_some_iff {r : Rule} {source : String} :
    c.matchLine line = some (r, source) ↔
      IsFirst (·.OccursIn line) c.rules r ∧
        ∃ p, IsFirst (·.OccursIn line) r.patterns p ∧ p.source = source := by
  rw [matchLine, List.findSome?_eq_some_iff]
  simp only [Option.map_eq_some_iff, Option.map_eq_none_iff, Rule.matchingPattern_eq_none_iff,
    Rule.matchingPattern_eq_some_iff]
  constructor
  · rintro ⟨before, r', after, hrules, ⟨source', ⟨p, hp, hsource⟩, hpair⟩, hbefore⟩
    obtain ⟨rfl, rfl⟩ := Prod.mk.inj hpair
    exact ⟨⟨⟨p, hp.mem, hp.1⟩, before, after, hrules, hbefore⟩, p, hp, hsource⟩
  · rintro ⟨⟨-, before, after, hrules, hbefore⟩, hp⟩
    exact ⟨before, r, after, hrules, ⟨source, hp, rfl⟩, hbefore⟩

/-- A catalog finds nothing in a line if no pattern of any rule occurs there, and only then. -/
theorem matchLine_eq_none_iff : c.matchLine line = none ↔ ∀ r ∈ c.rules, ¬ r.OccursIn line := by
  rw [matchLine, List.findSome?_eq_none_iff]
  simp only [Option.map_eq_none_iff, Rule.matchingPattern_eq_none_iff]

/-- Where a rule has a pattern, something is found. -/
theorem exists_matchLine {r : Rule} (hr : r ∈ c.rules) (h : r.OccursIn line) :
    ∃ r' source, c.matchLine line = some (r', source) := by
  cases hmatch : c.matchLine line with
  | none => exact absurd h (matchLine_eq_none_iff.mp hmatch r hr)
  | some found => exact ⟨found.1, found.2, rfl⟩

end Catalog

/-! ## The lines that are reported -/

theorem Scan.Line.isComment_eq_false_iff {trimmed : String} :
    isComment trimmed = false ↔
      ¬ "//".toList <+: trimmed.toList ∧ ¬ "*".toList <+: trimmed.toList := by
  have hslashes : "//".toList = ['/', '/'] := rfl
  have hstar : "*".toList = ['*'] := rfl
  rw [isComment, hslashes, hstar]
  split
  case h_1 r h => simp [h]
  case h_2 r h => simp [h]
  case h_3 hslash hstar =>
    refine iff_of_true rfl ⟨?_, ?_⟩
    · rintro ⟨r, hr⟩
      exact hslash r hr.symm
    · rintro ⟨r, hr⟩
      exact hstar r hr.symm

namespace Scanner

open Scan (wordSize)
open Scan.Line (numbered? split)

variable {s : Scanner} {line : String}

/-- A line that is to be reported: trimmed, it does not open like a comment and is not too long, and as
it stands some pattern of some rule occurs in it. -/
structure IsSink (s : Scanner) (line : String) : Prop where
  code : ¬ "//".toList <+: (Text.trim line).toList ∧ ¬ "*".toList <+: (Text.trim line).toList
  short : (Text.trim line).length ≤ s.config.maxLineLength
  occurs : ∃ r ∈ s.catalog.rules, r.OccursIn line

theorem skips_eq_false_iff {trimmed : String} :
    s.skips trimmed = false ↔
      (¬ "//".toList <+: trimmed.toList ∧ ¬ "*".toList <+: trimmed.toList) ∧
        trimmed.length ≤ s.config.maxLineLength := by
  rw [skips, Bool.or_eq_false_iff, Scan.Line.isComment_eq_false_iff, Scan.Line.isMinified,
    decide_eq_false_iff_not, Nat.not_lt]

/-- The lines that are to be reported are those that are claimed. -/
theorem isSome_claimed?_iff : (s.claimed? line).isSome ↔ s.IsSink line := by
  rw [Option.isSome_iff_exists, Prod.exists]
  simp only [claimed?_eq_some_iff, skips_eq_false_iff]
  constructor
  · rintro ⟨rule, pattern, ⟨hcode, hshort⟩, hmatch⟩
    obtain ⟨hrule, -⟩ := Catalog.matchLine_eq_some_iff.mp hmatch
    exact ⟨hcode, hshort, rule, hrule.mem, hrule.1⟩
  · rintro ⟨hcode, hshort, rule, hrule, hoccurs⟩
    obtain ⟨rule', pattern, hmatch⟩ := Catalog.exists_matchLine hrule hoccurs
    exact ⟨rule', pattern, ⟨hcode, hshort⟩, hmatch⟩

/-- A line that is to be reported gives a candidate, which names the first rule and its first pattern
there. -/
theorem sighting?_eq_some_iff_isFirst {path : String} {lines : List String} {index : Nat}
    {c : Candidate} :
    s.sighting? path lines index line = some c ↔
      s.IsSink line ∧ ∃ rule p, IsFirst (·.OccursIn line) s.catalog.rules rule ∧
        IsFirst (·.OccursIn line) rule.patterns p ∧
          c = s.claim path lines index line rule p.source := by
  rw [sighting?_eq_some_iff, skips_eq_false_iff]
  simp only [Catalog.matchLine_eq_some_iff]
  constructor
  · rintro ⟨⟨hcode, hshort⟩, rule, -, ⟨hrule, p, hp, rfl⟩, hc⟩
    exact ⟨⟨hcode, hshort, rule, hrule.mem, hrule.1⟩, rule, p, hrule, hp, hc⟩
  · rintro ⟨hsink, rule, p, hrule, hp, hc⟩
    exact ⟨⟨hsink.code, hsink.short⟩, rule, p.source, ⟨hrule, p, hp, rfl⟩, hc⟩

theorem exists_mem_sightings_iff {path content : String} {n : Nat} :
    (∃ c ∈ s.sightings path content, c.line = n) ↔
      ∃ line, numbered? content n = some line ∧ s.IsSink line := by
  simp only [mem_sightings_numbered]
  constructor
  · rintro ⟨c, line, hline, hsighting⟩
    exact ⟨line, hline, (sighting?_eq_some_iff_isFirst.mp hsighting).1⟩
  · rintro ⟨line, hline, hsink⟩
    obtain ⟨found, hclaimed⟩ := Option.isSome_iff_exists.mp (isSome_claimed?_iff.mpr hsink)
    refine ⟨s.claim path (split content) (n - 1) line found.1 found.2, line, hline, ?_⟩
    rw [sighting?, hclaimed, Option.map_some]

/-- The candidates of a text, by the lines that are to be reported. -/
theorem mem_sightings_iff_isFirst {path content : String} {c : Candidate} :
    c ∈ s.sightings path content ↔
      ∃ n line rule p, numbered? content n = some line ∧ s.IsSink line ∧
        IsFirst (·.OccursIn line) s.catalog.rules rule ∧
        IsFirst (·.OccursIn line) rule.patterns p ∧
        c = s.claim path (split content) (n - 1) line rule p.source := by
  constructor
  · intro hc
    obtain ⟨line, hline, hsighting⟩ := mem_sightings_numbered.mp ⟨hc, rfl⟩
    obtain ⟨hsink, rule, p, hrule, hp, hclaim⟩ := sighting?_eq_some_iff_isFirst.mp hsighting
    exact ⟨c.line, line, rule, p, hline, hsink, hrule, hp, hclaim⟩
  · rintro ⟨n, line, rule, p, hline, hsink, hrule, hp, rfl⟩
    refine (mem_sightings_numbered.mpr ⟨line, hline, ?_⟩).1
    exact sighting?_eq_some_iff_isFirst.mpr ⟨hsink, rule, p, hrule, hp, rfl⟩

theorem fits_iff_isSink {content : String} :
    s.Fits content ↔ ∀ n line, numbered? content n = some line → s.IsSink line →
      n + s.config.contextLines < wordSize := by
  simp only [Fits, isSome_claimed?_iff]

/-- **What a scan finds.**  A scan succeeds exactly if the windows of the lines that are to be reported
have an end, and it can fail in no other way.  If it succeeds, its candidates are in the strict order of
their lines, so a line has one at most.  A line has a candidate exactly if it is to be reported.  And the
candidate of a line names the first rule of the catalog that has a pattern there, with the first such
pattern of the rule, the trimmed line and the window around it. -/
theorem scanContent_exact (s : Scanner) (path content : String) :
    ((∃ cs, s.scanContent path content = .ok cs) ↔
      ∀ n line, numbered? content n = some line → s.IsSink line →
        n + s.config.contextLines < wordSize) ∧
    (∀ e, s.scanContent path content = .error e → e = .overflow) ∧
    ∀ cs, s.scanContent path content = .ok cs →
      (cs.Pairwise fun c d => c.line < d.line) ∧
      (∀ n, (∃ c ∈ cs, c.line = n) ↔
        ∃ line, numbered? content n = some line ∧ s.IsSink line) ∧
      ∀ c, c ∈ cs ↔
        ∃ n line rule p snippet, numbered? content n = some line ∧ s.IsSink line ∧
          IsFirst (·.OccursIn line) s.catalog.rules rule ∧
          IsFirst (·.OccursIn line) rule.patterns p ∧
          Scan.contextWindow (split content) (n - 1) s.config.contextLines = .ok snippet ∧
          c =
            { file := path
              line := n
              ruleId := rule.id
              vulnName := rule.name
              snippet := snippet
              pattern := p.source
              rawLine := Text.trim line } := by
  refine ⟨exists_scanContent_iff.trans fits_iff_isSink, fun e => eq_overflow_of_scanContent, ?_⟩
  intro cs hcs
  obtain ⟨hfits, rfl⟩ := scanContent_eq_ok_iff.mp hcs
  refine ⟨pairwise_sightings s path content, fun n => exists_mem_sightings_iff, fun c => ?_⟩
  -- The windows have an end, so they are the plain ones.
  have hwindow : ∀ n line, numbered? content n = some line → s.IsSink line → n - 1 + 1 = n ∧
      Scan.contextWindow (split content) (n - 1) s.config.contextLines =
        .ok (Scan.Window.plain (split content) (n - 1) s.config.contextLines) := by
    intro n line hline hsink
    have hbound := fits_iff_isSink.mp hfits n line hline hsink
    obtain ⟨hpos, -⟩ := Scan.Line.bounds_of_numbered? hline
    exact ⟨by omega, Scan.Window.contextWindow_of_lt (by omega) _⟩
  rw [mem_sightings_iff_isFirst]
  constructor
  · rintro ⟨n, line, rule, p, hline, hsink, hrule, hp, rfl⟩
    obtain ⟨hn, hplain⟩ := hwindow n line hline hsink
    refine ⟨n, line, rule, p, _, hline, hsink, hrule, hp, hplain, ?_⟩
    rw [claim, hn]
  · rintro ⟨n, line, rule, p, snippet, hline, hsink, hrule, hp, hsnippet, rfl⟩
    obtain ⟨hn, hplain⟩ := hwindow n line hline hsink
    obtain rfl := Except.ok.inj (hplain.symm.trans hsnippet)
    refine ⟨n, line, rule, p, hline, hsink, hrule, hp, ?_⟩
    rw [claim, hn]

end Scanner

end SinkAudit

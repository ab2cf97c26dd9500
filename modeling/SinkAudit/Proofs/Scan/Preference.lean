import SinkAudit.Proofs.Scan.Sinks

/-!
# The order of preference

A line belongs to the first rule of the catalog that has a pattern there, and to the first such pattern
of the rule.  So rules shadow each other: one that has a pattern in a line is not reported if another
comes before it.  This module says what can come of that when the line grows, and when the catalog
shrinks.

More text around a part of a line brings more patterns into the line and takes none away.  What is found
then may be another rule, but one that is preferred to the rule of the part; a line is never lost, and
nothing that is less preferred takes over.

Without some of its rules a catalog finds the others as before, and where a rule that is left out had
claimed a line, it may find one that was shadowed.  Nothing else changes, in particular no window and no
line number.

* `Catalog.rank`, `Rule.rank`: the places of a rule and of a pattern in their orders.
* `Catalog.rank_le_of_matchLine`, `Rule.rank_le_of_matchingPattern`: what is found comes first.
* `Catalog.exists_matchLine_of_imp`, `Catalog.surroundings_hide_nothing`: longer lines.
* `Catalog.matchLine_without`, `Scanner.disabling_hides_no_other`: smaller catalogs.
-/

namespace SinkAudit

/-! ## Ranks -/

/-- The first item that has a property has no place behind another that has it. -/
theorem IsFirst.idxOf_map_le {α : Type} {P : α → Prop} {l : List α} {a b : α} {f : α → String}
    (hnodup : (l.map f).Nodup) (ha : IsFirst P l a) (hb : b ∈ l) (hPb : P b) :
    (l.map f).idxOf (f a) ≤ (l.map f).idxOf (f b) := by
  have hmem := ha.mem
  obtain ⟨hPa, before, after, rfl, hbefore⟩ := ha
  -- What has the property stands behind all that comes before the first.
  have hlater : ∀ x ∈ before ++ a :: after, P x → f x ∉ before.map f := by
    intro x hx hPx hfx
    obtain ⟨y, hy, hyx⟩ := List.mem_map.mp hfx
    obtain rfl := List.inj_on_of_nodup_map hnodup (List.mem_append_left _ hy) hx hyx
    exact hbefore y hy hPx
  rw [List.map_append, List.idxOf_append_of_notMem (hlater a hmem hPa),
    List.idxOf_append_of_notMem (hlater b hb hPb), List.map_cons, List.idxOf_cons_self]
  omega

/-- The first item is still the first if others are left out. -/
theorem IsFirst.filter {α : Type} {P : α → Prop} {l : List α} {a : α} {q : α → Bool}
    (h : IsFirst P l a) (ha : q a = true) : IsFirst P (l.filter q) a := by
  obtain ⟨hP, before, after, rfl, hbefore⟩ := h
  refine ⟨hP, before.filter q, after.filter q, ?_, fun b hb => hbefore b (List.mem_filter.mp hb).1⟩
  rw [List.filter_append, List.filter_cons_of_pos ha]

/-- The place of a pattern, given by its text, among the patterns of a rule. -/
def Rule.rank (r : Rule) (source : String) : Nat :=
  (r.patterns.map (·.source)).idxOf source

/-- The place of a rule, given by its id, in the order of preference. -/
def Catalog.rank (c : Catalog) (id : String) : Nat :=
  (c.rules.map (·.id)).idxOf id

/-- A rule finds no pattern behind another that occurs. -/
theorem Rule.rank_le_of_matchingPattern {r : Rule} {line source : String} {p : SinkPattern}
    (hnodup : (r.patterns.map (·.source)).Nodup) (h : r.matchingPattern line = some source)
    (hp : p ∈ r.patterns) (hoccurs : p.OccursIn line) : r.rank source ≤ r.rank p.source := by
  obtain ⟨q, hfirst, rfl⟩ := matchingPattern_eq_some_iff.mp h
  exact hfirst.idxOf_map_le hnodup hp hoccurs

namespace Catalog

variable {c : Catalog} {line line' source : String} {ids : List String} {r : Rule}

/-- A catalog finds no rule behind another that has a pattern. -/
theorem rank_le_of_matchLine {r' : Rule} (hnodup : (c.rules.map (·.id)).Nodup)
    (h : c.matchLine line = some (r, source)) (hr' : r' ∈ c.rules) (hoccurs : r'.OccursIn line) :
    c.rank r.id ≤ c.rank r'.id :=
  (matchLine_eq_some_iff.mp h).1.idxOf_map_le hnodup hr' hoccurs

/-- Different ids have different places. -/
theorem rank_ne {id : String} (hr : r ∈ c.rules) (hne : r.id ≠ id) : c.rank r.id ≠ c.rank id :=
  fun h => hne ((List.idxOf_inj (List.mem_map_of_mem hr)).mp h)

/-! ## Longer lines -/

/-- In a line with all the patterns of another something is found that is not less preferred. -/
theorem exists_matchLine_of_imp (hids : (c.rules.map (·.id)).Nodup)
    (hsources : ∀ r ∈ c.rules, (r.patterns.map (·.source)).Nodup)
    (hmore : ∀ r ∈ c.rules, ∀ p ∈ r.patterns, p.OccursIn line → p.OccursIn line')
    (h : c.matchLine line = some (r, source)) :
    ∃ r' source', c.matchLine line' = some (r', source') ∧ c.rank r'.id ≤ c.rank r.id ∧
      (r' = r → r.rank source' ≤ r.rank source) := by
  obtain ⟨hrule, p, hp, rfl⟩ := matchLine_eq_some_iff.mp h
  have hp' : p.OccursIn line' := hmore r hrule.mem p hp.mem hp.1
  have hr' : r.OccursIn line' := ⟨p, hp.mem, hp'⟩
  obtain ⟨r', source', hmatch⟩ := exists_matchLine hrule.mem hr'
  refine ⟨r', source', hmatch, rank_le_of_matchLine hids hmatch hrule.mem hr', ?_⟩
  rintro rfl
  obtain ⟨-, hpattern⟩ := of_matchLine_eq_some hmatch
  exact Rule.rank_le_of_matchingPattern (hsources r' hrule.mem) hpattern hp.mem hp'

/-- **Code around a sink does not hide it.**  If the built-in rules, whichever of them are left out, find
something in a text, then they find something in every line that has the text in it: the same rule or
one that is preferred to it, and if it is the same rule, the same pattern or one before it. -/
theorem surroundings_hide_nothing (ids : List String) (a s b : String)
    (h : (builtin.without ids).matchLine s = some (r, source)) :
    ∃ r' source', (builtin.without ids).matchLine (a ++ s ++ b) = some (r', source') ∧
      (builtin.without ids).rank r'.id ≤ (builtin.without ids).rank r.id ∧
      (r' = r → r.rank source' ≤ r.rank source) := by
  refine exists_matchLine_of_imp (nodup_without nodup_ids_builtin ids) ?_ ?_ h
  · intro r hr
    exact nodup_sources_of_mem_builtin (mem_without.mp hr).1
  · intro r hr p hp hoccurs
    obtain ⟨hplain, -⟩ := isPlain_and_shedsBlanks (mem_without.mp hr).1 hp
    rw [SinkPattern.OccursIn, String.toList_append, String.toList_append]
    exact hoccurs.within hplain a.toList b.toList

/-- A timer inside a call: the call is found instead, by an earlier pattern of the same rule. -/
theorem surroundings_hide_nothing_timer :
    ∃ r source r' source', (builtin.without ["XSS"]).matchLine "setTimeout('f()')" = some (r, source) ∧
      (builtin.without ["XSS"]).matchLine ("eval(" ++ "setTimeout('f()')" ++ ")") =
        some (r', source') ∧
      (builtin.without ["XSS"]).rank r'.id ≤ (builtin.without ["XSS"]).rank r.id ∧
      (r' = r → r.rank source' ≤ r.rank source) := by
  have hfound : ((builtin.without ["XSS"]).matchLine "setTimeout('f()')").isSome = true := by
    rw [builtin_eq]
    decide +kernel
  obtain ⟨⟨r, source⟩, h⟩ := Option.isSome_iff_exists.mp hfound
  obtain ⟨r', source', h'⟩ := surroundings_hide_nothing ["XSS"] "eval(" "setTimeout('f()')" ")" h
  exact ⟨r, source, r', source', h, h'⟩

/-! ## Smaller catalogs -/

/-- A rule that is not left out is found as before. -/
theorem matchLine_without (h : c.matchLine line = some (r, source)) (hr : r.id ∉ ids) :
    (c.without ids).matchLine line = some (r, source) := by
  rw [matchLine_eq_some_iff] at h ⊢
  have hkept : (!ids.contains r.id) = true := by simpa using hr
  exact ⟨h.1.filter hkept, h.2⟩

/-- What is found when rules are left out was found before, or shadowed by one of them. -/
theorem of_matchLine_without (hnodup : (c.rules.map (·.id)).Nodup)
    (h : (c.without ids).matchLine line = some (r, source)) :
    r.id ∉ ids ∧ (c.matchLine line = some (r, source) ∨ ∃ r' source',
      c.matchLine line = some (r', source') ∧ r'.id ∈ ids ∧ c.rank r'.id < c.rank r.id) := by
  obtain ⟨hfirst, -⟩ := matchLine_eq_some_iff.mp h
  obtain ⟨hr, hid⟩ := mem_without.mp hfirst.mem
  refine ⟨hid, ?_⟩
  obtain ⟨r', source', hfull⟩ := exists_matchLine hr hfirst.1
  by_cases hr' : r'.id ∈ ids
  · have hne : r'.id ≠ r.id := fun heq => hid (heq ▸ hr')
    have hle := rank_le_of_matchLine hnodup hfull hr hfirst.1
    have hrank := rank_ne (of_matchLine_eq_some hfull).1 hne
    exact Or.inr ⟨r', source', hfull, hr', by omega⟩
  · rw [matchLine_without hfull hr'] at h
    exact Or.inl (hfull.trans h)

end Catalog

namespace Scanner

open Scan.Line (numbered? split)

variable {s : Scanner} {path content : String} {c : Candidate} {ids : List String}

/-- The scanner without the rules of the given ids. -/
def without (s : Scanner) (ids : List String) : Scanner :=
  { s with catalog := s.catalog.without ids }

/-- The id that a candidate names stands for the rule that claims its line, by the pattern that it
names. -/
def Resolves (s : Scanner) (content : String) (c : Candidate) : Prop :=
  ∃ line r, numbered? content c.line = some line ∧ s.catalog.matchLine line = some (r, c.pattern) ∧
    r.id = c.ruleId ∧ s.catalog.lookup c.ruleId = .ok r

theorem resolves_of_mem (hnodup : (s.catalog.rules.map (·.id)).Nodup)
    (hc : c ∈ s.sightings path content) : s.Resolves content c := by
  obtain ⟨index, line, hline, hsighting⟩ := mem_sightings.mp hc
  obtain ⟨-, r, source, hmatch, rfl⟩ := sighting?_eq_some_iff.mp hsighting
  obtain ⟨hr, -⟩ := Catalog.of_matchLine_eq_some hmatch
  exact ⟨line, r, hline, hmatch, rfl, Catalog.lookup_eq_ok hnodup hr⟩

/-- A candidate of a rule that is not left out is found as before. -/
theorem mem_sightings_without (hc : c ∈ s.sightings path content) (hid : c.ruleId ∉ ids) :
    c ∈ (s.without ids).sightings path content := by
  obtain ⟨index, line, hline, hsighting⟩ := mem_sightings.mp hc
  obtain ⟨hskip, r, source, hmatch, rfl⟩ := sighting?_eq_some_iff.mp hsighting
  refine mem_sightings.mpr ⟨index, line, hline, sighting?_eq_some_iff.mpr ⟨hskip, r, source, ?_, rfl⟩⟩
  exact Catalog.matchLine_without hmatch hid

/-- A candidate that is found when rules are left out was found before, or stands on a line that one of
them had claimed. -/
theorem of_mem_sightings_without (hnodup : (s.catalog.rules.map (·.id)).Nodup)
    (hc : c ∈ (s.without ids).sightings path content) :
    c.ruleId ∉ ids ∧ (c ∈ s.sightings path content ∨ ∃ d ∈ s.sightings path content,
      d.line = c.line ∧ d.ruleId ∈ ids ∧ s.catalog.rank d.ruleId < s.catalog.rank c.ruleId) := by
  obtain ⟨index, line, hline, hsighting⟩ := mem_sightings.mp hc
  obtain ⟨hskip, r, source, hmatch, rfl⟩ := sighting?_eq_some_iff.mp hsighting
  obtain ⟨hid, hfull⟩ := Catalog.of_matchLine_without hnodup hmatch
  -- Whatever the full catalog finds in the line is reported there.
  have hreport : ∀ r' source', s.catalog.matchLine line = some (r', source') →
      s.claim path (split content) index line r' source' ∈ s.sightings path content :=
    fun r' source' h => mem_sightings.mpr
      ⟨index, line, hline, sighting?_eq_some_iff.mpr ⟨hskip, r', source', h, rfl⟩⟩
  refine ⟨hid, ?_⟩
  rcases hfull with hsame | ⟨r', source', hshadow, hid', hrank⟩
  · exact Or.inl (hreport r source hsame)
  · exact Or.inr ⟨_, hreport r' source' hshadow, rfl, hid', hrank⟩

/-- A scan does not fail for want of rules: the lines that fewer rules claim are claimed by all. -/
theorem fits_without (h : s.Fits content) (ids : List String) : (s.without ids).Fits content := by
  rw [fits_iff_isSink] at h ⊢
  rintro n line hline ⟨hcode, hshort, r, hr, hoccurs⟩
  exact h n line hline ⟨hcode, hshort, r, (Catalog.mem_without.mp hr).1, hoccurs⟩

/-- **Leaving out rules hides no sink of another rule.**  For every catalog of rules with different ids
and every list of ids, known or not: if the scan succeeds, so does the scan without the rules on the list.
A candidate of a rule that is not left out is found unchanged.  A candidate that is found without the
rules on the list is of none of them, and it was found before, or a rule on the list that is preferred to
its own had claimed its line.  And in both scans, whenever one succeeds, the id that a candidate names
stands for the very rule that matched. -/
theorem disabling_hides_no_other {rules : List Rule} (hs : Catalog.ofRules rules = .ok s.catalog)
    (ids : List String) (path content : String) :
    (∀ cs, s.scanContent path content = .ok cs →
      ∃ ds, (s.without ids).scanContent path content = .ok ds ∧
        (∀ c ∈ cs, c.ruleId ∉ ids → c ∈ ds) ∧
        ∀ d ∈ ds, d ∈ cs ∨ ∃ c ∈ cs,
          c.line = d.line ∧ c.ruleId ∈ ids ∧ s.catalog.rank c.ruleId < s.catalog.rank d.ruleId) ∧
    (∀ c, s.Reports path content c → s.Resolves content c) ∧
    ∀ d, (s.without ids).Reports path content d →
      d.ruleId ∉ ids ∧ (s.without ids).Resolves content d := by
  obtain ⟨-, hnodup⟩ := Catalog.ofRules_eq_ok hs
  refine ⟨fun cs hcs => ?_, fun c hc => ?_, fun d hd => ?_⟩
  · obtain ⟨hfits, rfl⟩ := scanContent_eq_ok_iff.mp hcs
    exact ⟨_, scanContent_of_fits (fits_without hfits ids) path,
      fun c hc hid => mem_sightings_without hc hid,
      fun d hd => (of_mem_sightings_without hnodup hd).2⟩
  · exact resolves_of_mem hnodup (reports_iff.mp hc).2
  · obtain ⟨-, hd⟩ := reports_iff.mp hd
    refine ⟨(of_mem_sightings_without hnodup hd).1, ?_⟩
    exact resolves_of_mem (s := s.without ids) (Catalog.nodup_without hnodup ids) hd

/-- A rule for calls and one for digests. -/
def twoRules : List Rule :=
  [Rule.reading { RuleInfo.codeInjection with patterns := ["eval\\("] },
   Rule.reading { RuleInfo.weakCrypto with patterns := ["md5\\("] }]

/-- A digest inside a call. -/
def nestedDigest : Candidate :=
  ⟨"main.js", 1, "WEAK_CRYPTO", "Weak Cryptography", "   1 | > eval(md5(x))\n", "md5\\(",
    "eval(md5(x))"⟩

/-- Without the rule for calls, on a list with two more entries, the digest is found that was shadowed. -/
theorem disabling_hides_no_other_digest :
    Catalog.ofRules twoRules = .ok ⟨twoRules⟩ ∧
      ∃ cs ds, (Scanner.mk ⟨twoRules⟩ {}).scanContent "main.js" "eval(md5(x))\n" = .ok cs ∧
        ((Scanner.mk ⟨twoRules⟩ {}).without ["CODE_INJECTION", "NONE", "CODE_INJECTION"]).scanContent
          "main.js" "eval(md5(x))\n" = .ok ds ∧ nestedDigest ∈ ds ∧
        ∃ c ∈ cs, c.line = 1 ∧ c.ruleId ∈ ["CODE_INJECTION", "NONE", "CODE_INJECTION"] ∧
          (Catalog.mk twoRules).rank c.ruleId < (Catalog.mk twoRules).rank "WEAK_CRYPTO" := by
  have hrules : Catalog.ofRules twoRules = .ok ⟨twoRules⟩ := rfl
  have hfits : (Scanner.mk ⟨twoRules⟩ {}).Fits "eval(md5(x))\n" := fits_of_length (by decide)
  have hscan := scanContent_of_fits hfits "main.js"
  have hfound : nestedDigest ∈ ((Scanner.mk ⟨twoRules⟩ {}).without
      ["CODE_INJECTION", "NONE", "CODE_INJECTION"]).sightings "main.js" "eval(md5(x))\n" := by
    decide +kernel
  have hnew : nestedDigest ∉ (Scanner.mk ⟨twoRules⟩ {}).sightings "main.js" "eval(md5(x))\n" := by
    decide +kernel
  have hall := disabling_hides_no_other (s := ⟨⟨twoRules⟩, {}⟩) hrules
    ["CODE_INJECTION", "NONE", "CODE_INJECTION"] "main.js" "eval(md5(x))\n"
  obtain ⟨ds, hds, -, hshadowed⟩ := hall.1 _ hscan
  obtain ⟨-, rfl⟩ := scanContent_eq_ok_iff.mp hds
  exact ⟨hrules, _, _, hscan, hds, hfound, (hshadowed nestedDigest hfound).resolve_left hnew⟩

end Scanner

end SinkAudit

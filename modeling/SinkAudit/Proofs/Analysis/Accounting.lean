import Mathlib.Data.Finset.Card
import SinkAudit.Proofs.Analysis.Audit
import SinkAudit.Proofs.Analysis.Batches
import SinkAudit.Report.Render

/-!
# The counts of a run

The counts that come with the findings are made in different passes over the candidates, and the last
report prints one of them as the number of calls of the classifier.  Here they are put in relation to what
happened: how many candidates and signatures there were, and which calls were made with which answers.

None of this depends on how the classifier comes to its answers; so the calls of a run are described by
`Session.Answered`, in which the answer to each call is arbitrary.

* `Session.Balanced`: what the counts say about the candidates and the calls.
* `Session.balanced_conclude`, `Session.balanced_analyze`: the counts of a run balance.
* `Scanner.exists_lookup_of_scanTree`: a scan names known rules only, so that an audit has no candidate
  without a call.
* `accounts_balance`: all of this together, with the number that is printed.
-/

namespace SinkAudit

theorem Finding.isSome_confirm (c : Candidate) (v : Verdict) :
    (Finding.confirm c v).isSome = v.isVulnerable := by
  rw [confirm]
  cases v.isVulnerable with
  | true => rfl
  | false => rfl

namespace Session

/-- What the counts of a run say about its candidates, the verdicts on their signatures, and the calls that
were made with their answers. -/
structure Balanced (catalog : Catalog) (cs : List Candidate) (given : String → Option Verdict)
    (made : List (Request × Except ClassifyError Verdict)) (o : Outcome) : Prop where
  candidates : o.stats.candidates = cs.length
  unique : o.stats.unique = (cs.map Candidate.signature).toFinset.card
  shares : o.stats.unique = o.stats.cacheHits + o.stats.classified + o.stats.failures
  confirmed : o.stats.confirmed = o.findings.length
  positive : o.findings.length = cs.countP fun c => (given c.signature).any (·.isVulnerable)
  classified : o.stats.classified = made.countP fun m => m.2.isOk
  /-- Where all rules are known, every failure is that of a call. -/
  calls : (∀ c ∈ cs, ∃ r, catalog.lookup c.ruleId = .ok r) →
    o.stats.classified + o.stats.failures = made.length

section Answers

variable {catalog : Catalog} {ms : List (String × Candidate)}
  {made : List (Request × Except ClassifyError Verdict)} {judged : List (String × Option Verdict)}

/-- The verdicts are the answers that are no failures. -/
theorem Answered.countP_isSome (h : Answered catalog ms made judged) :
    judged.countP (fun p => p.2.isSome) = made.countP fun m => m.2.isOk := by
  induction h with
  | nil => rfl
  | unknown lookup rest ih => rw [List.countP_cons_of_neg (by simp), ih]
  | asked lookup answer rest ih =>
    rw [List.countP_cons, List.countP_cons, ih]
    cases answer with
    | error e => rfl
    | ok v => rfl

/-- Where all rules are known, there is a call for every candidate. -/
theorem Answered.length_made (h : Answered catalog ms made judged)
    (hknown : ∀ p ∈ ms, ∃ r, catalog.lookup p.2.ruleId = .ok r) : made.length = ms.length := by
  induction h with
  | nil => rfl
  | unknown lookup rest ih =>
    obtain ⟨r, hr⟩ := hknown _ List.mem_cons_self
    rw [lookup] at hr
    exact absurd hr (by simp)
  | asked lookup answer rest ih =>
    rw [List.length_cons, List.length_cons, ih fun p hp => hknown p (List.mem_cons_of_mem _ hp)]

end Answers

/-! ## The counts -/

section Counts

variable {store : Store} {cs : List Candidate}

/-- One candidate is kept for each signature. -/
theorem length_firstOccurrences (cs : List Candidate) :
    (firstOccurrences [] (cs.map fun c => (c.signature, c))).length =
      (cs.map Candidate.signature).toFinset.card := by
  have hnodup := nodup_firstOccurrences (cs.map fun c => (c.signature, c)) []
  rw [← List.length_map (f := (·.1)), ← List.toFinset_card_of_nodup hnodup]
  refine congrArg Finset.card (Finset.ext fun sig => ?_)
  rw [List.mem_toFinset, List.mem_toFinset, List.mem_map, List.mem_map]
  constructor
  · rintro ⟨⟨k, c⟩, hmem, rfl⟩
    exact ⟨c, first_spec (mem_firstOccurrences_signed.mp hmem)⟩
  · rintro ⟨c, hc, rfl⟩
    obtain ⟨d, hd⟩ := exists_first hc
    exact ⟨(c.signature, d), mem_firstOccurrences_signed.mpr hd, rfl⟩

/-- The candidates that are confirmed are those with a positive verdict. -/
theorem length_confirmed (cs : List Candidate) (f : Candidate → Option Verdict) :
    (cs.filterMap fun c => Finding.confirm c ((f c).getD Verdict.analysisError)).length =
      cs.countP fun c => (f c).any (·.isVulnerable) := by
  rw [List.length_filterMap_eq_countP]
  refine List.countP_congr fun c _ => ?_
  rw [Finding.isSome_confirm]
  cases f c with
  | none => rfl
  | some v => rfl

/-- The counts balance, however the calls were answered. -/
theorem balanced_conclude {catalog : Catalog} {made : List (Request × Except ClassifyError Verdict)}
    {judged : List (String × Option Verdict)}
    (h : Answered catalog (misses store cs) made judged) :
    Balanced catalog cs (givenVerdict? store judged) made (conclude store cs judged) := by
  have hclassified : (judged.filter fun p => p.2.isSome).length = made.countP fun m => m.2.isOk := by
    rw [← List.countP_eq_length_filter, h.countP_isSome]
  have hle : (judged.filter fun p => p.2.isSome).length ≤ judged.length := List.length_filter_le _ _
  have hjudged : judged.length = (misses store cs).length := by
    have hlength := congrArg List.length h.keys_eq
    rwa [List.length_map, List.length_map] at hlength
  have hshares := length_hits_add_length_misses store cs
  refine ⟨rfl, length_firstOccurrences cs, ?_, rfl, ?_, hclassified, ?_⟩
  · rw [conclude]
    dsimp only
    omega
  · rw [findings_conclude h.keys_eq, length_confirmed]
  · intro hknown
    have hmade := h.length_made fun p hp =>
      hknown p.2 (first_spec (mem_misses.mp hp).2).1
    rw [conclude]
    dsimp only
    omega

/-- The counts of an analysis balance. -/
theorem balanced_analyze (a : Analyzer) (s : Session) (cs : List Candidate) :
    ∃ made, (s.analyze a cs).2.calls = s.calls ++ made.map (·.1) ∧
      (∀ m ∈ made, m.2 = a.classifier m.1) ∧
      Balanced a.catalog cs (keptVerdict? a s.store cs) made (s.analyze a cs).1 := by
  obtain ⟨made, hanswered, hcalls, hmade⟩ := exists_answered a (misses s.store cs)
  refine ⟨made, by rw [calls_analyze, hcalls], hmade, ?_⟩
  have hbalanced := balanced_conclude hanswered
  rw [funext (givenVerdict?_outcomes a s.store cs)] at hbalanced
  rw [analyze_eq, judgeAll_fst]
  exact hbalanced

end Counts

end Session

/-! ## Audits -/

theorem Catalog.exists_lookup {c : Catalog} {id : String} (h : id ∈ c.infos.map (·.id)) :
    ∃ r, c.lookup id = .ok r := by
  rw [infos, List.map_map] at h
  obtain ⟨rule, hrule, rfl⟩ := List.mem_map.mp h
  dsimp only [Function.comp]
  rw [lookup]
  cases hfind : c.rules.find? fun r => r.id == rule.info.id with
  | some r => exact ⟨r, rfl⟩
  | none => exact absurd (beq_self_eq_true _) (List.find?_eq_none.mp hfind rule hrule)

/-- The rules of the candidates of a scan are known to its catalog. -/
theorem Scanner.exists_lookup_of_scanTree {s : Scanner} {w : Workspace} {root : String}
    {cs : List Candidate} (h : s.scanTree w root = .ok cs) {c : Candidate} (hc : c ∈ cs) :
    ∃ r, s.catalog.lookup c.ruleId = .ok r :=
  Catalog.exists_lookup (ruleId_mem_of_mem_scanTree h hc)

section Audits

variable {w : Workspace} {root : String} {config : Config} {classifier : Classifier} {now : Moment}
  {a : Audit}

/-- An audit reports the analysis of what the scan finds, also if that is nothing. -/
theorem audit_analyze (h : audit w root config classifier now = .ok a) :
    ∃ scanned, (Scanner.builtin config.scan).scanTree w root = .ok scanned ∧
      a.report.candidates = scanned.length ∧
      (⟨a.report.findings, a.report.stats⟩, a.calls) =
        ((Session.analyze ⟨classifier, (Scanner.builtin config.scan).catalog⟩ scanned
            ⟨.ofConfig w config.cache, w, []⟩).1,
          (Session.analyze ⟨classifier, (Scanner.builtin config.scan).catalog⟩ scanned
            ⟨.ofConfig w config.cache, w, []⟩).2.calls) := by
  rw [audit] at h
  generalize Scanner.builtin config.scan = scanner at h ⊢
  dsimp only at h
  split at h
  case h_1 => cases h
  case h_2 scanned hscan =>
    split at h
    case isTrue hempty =>
      cases h
      obtain rfl := List.isEmpty_iff.mp hempty
      exact ⟨[], hscan, rfl, rfl⟩
    case isFalse =>
      cases h
      exact ⟨scanned, hscan, rfl, rfl⟩

/-- An audit makes a call for every signature that it counts as classified or failed. -/
theorem length_calls_audit (h : audit w root config classifier now = .ok a) :
    a.report.stats.classified + a.report.stats.failures = a.calls.length := by
  obtain ⟨scanned, hscan, -, hanalyze⟩ := audit_analyze h
  obtain ⟨hreport, hcalls⟩ := Prod.mk.inj hanalyze
  obtain ⟨made, hmade, -, hbalanced⟩ :=
    Session.balanced_analyze ⟨classifier, (Scanner.builtin config.scan).catalog⟩
      ⟨.ofConfig w config.cache, w, []⟩ scanned
  have hall := hbalanced.calls fun c hc => Scanner.exists_lookup_of_scanTree hscan hc
  rw [← hreport] at hall
  rw [hcalls, hmade, List.nil_append, List.length_map]
  exact hall

/-- The table of an audit with findings ends with the number of calls.  There is none if that number is
too large for a word. -/
theorem render_audit (h : audit w root config classifier now = .ok a) (hfound : a.report.findings ≠ []) :
    (a.calls.length < Word.count64 → ∃ table : String, Report.Console.render a.report = .ok (table ++
      ("\n  Classifier calls: " ++ toString a.calls.length ++ " (" ++
        toString a.report.stats.failures ++ " failed), cache hits: " ++
        toString a.report.stats.cacheHits ++ "\n\n"))) ∧
      (Word.count64 ≤ a.calls.length → Report.Console.render a.report = .error .overflow) := by
  obtain ⟨scanned, -, hcount, hanalyze⟩ := audit_analyze h
  have hcandidates : a.report.candidates ≠ 0 := by
    intro hzero
    rw [hzero] at hcount
    obtain rfl := List.length_eq_zero_iff.mp hcount.symm
    generalize Scanner.builtin config.scan = scanner at hanalyze
    have hfindings := congrArg Outcome.findings (Prod.mk.inj hanalyze).1
    rw [Session.findings_analyze, List.filterMap_nil] at hfindings
    exact hfound hfindings
  have hlisted : ¬a.report.findings.isEmpty = true := fun h => hfound (List.isEmpty_iff.mp h)
  rw [Report.Console.render, if_neg hcandidates, if_neg hlisted, Report.Console.footer,
    length_calls_audit h]
  refine ⟨fun hlt => ?_, fun hle => ?_⟩
  · rw [Word.checked_of_lt hlt]
    exact ⟨_, rfl⟩
  · rw [Word.checked_of_le hle]
    rfl

end Audits

/-- **Accounting.**  However the calls of a run are answered, its counts balance; those of an analysis do
so with the calls that it makes, each of them answered by the classifier.  And in an audit every rule that
the scan names is known, so that the number which is printed is the number of calls; a number that is too
large for a word is not printed, and there is no table. -/
theorem accounts_balance :
    (∀ (catalog : Catalog) (store : Store) (cs : List Candidate)
      (made : List (Request × Except ClassifyError Verdict)) (judged : List (String × Option Verdict)),
      Session.Answered catalog (Session.misses store cs) made judged →
        Session.Balanced catalog cs (Session.givenVerdict? store judged) made
          (Session.conclude store cs judged)) ∧
      (∀ (a : Analyzer) (s : Session) (cs : List Candidate), ∃ made,
        (s.analyze a cs).2.calls = s.calls ++ made.map (·.1) ∧
        (∀ m ∈ made, m.2 = a.classifier m.1) ∧
        Session.Balanced a.catalog cs (Session.keptVerdict? a s.store cs) made (s.analyze a cs).1) ∧
      ∀ (w : Workspace) (root : String) (config : Config) (classifier : Classifier) (now : Moment)
        (a : Audit), audit w root config classifier now = .ok a →
        (∃ scanned, (Scanner.builtin config.scan).scanTree w root = .ok scanned ∧
          ∀ c ∈ scanned, ∃ r, (Scanner.builtin config.scan).catalog.lookup c.ruleId = .ok r) ∧
        a.report.stats.classified + a.report.stats.failures = a.calls.length ∧
        (a.report.findings ≠ [] →
          (a.calls.length < Word.count64 →
            ∃ table : String, Report.Console.render a.report = .ok (table ++
              ("\n  Classifier calls: " ++ toString a.calls.length ++ " (" ++
                toString a.report.stats.failures ++ " failed), cache hits: " ++
                toString a.report.stats.cacheHits ++ "\n\n"))) ∧
          (Word.count64 ≤ a.calls.length → Report.Console.render a.report = .error .overflow)) := by
  refine ⟨fun catalog store cs made judged h => Session.balanced_conclude h, Session.balanced_analyze,
    fun w root config classifier now a h => ⟨?_, length_calls_audit h, render_audit h⟩⟩
  obtain ⟨scanned, hscan, -, -⟩ := audit_analyze h
  exact ⟨scanned, hscan, fun c hc => Scanner.exists_lookup_of_scanTree hscan hc⟩

/-- An audit of two files with three candidates, and a run in which the rule of the only candidate is
unknown: a failure without a call. -/
theorem accounts_balance_nested :
    (∃ a, audit nestedSite "." nestedConfig gradingClassifier ⟨0, 0⟩ = .ok a ∧
      a.report.findings.length = 3 ∧
      a.report.stats.classified + a.report.stats.failures = a.calls.length ∧
      ∃ table : String, Report.Console.render a.report = .ok (table ++
        ("\n  Classifier calls: " ++ toString a.calls.length ++ " (" ++
          toString a.report.stats.failures ++ " failed), cache hits: " ++
          toString a.report.stats.cacheHits ++ "\n\n"))) ∧
      Session.Answered ⟨[]⟩ (Session.misses .disabled [Session.sampleCandidate]) []
        [(Session.sampleCandidate.signature, none)] ∧
      Session.Balanced ⟨[]⟩ [Session.sampleCandidate]
        (Session.givenVerdict? .disabled [(Session.sampleCandidate.signature, none)]) []
        (Session.conclude .disabled [Session.sampleCandidate]
          [(Session.sampleCandidate.signature, none)]) := by
  obtain ⟨hconclude, -, haudit⟩ := accounts_balance
  refine ⟨?_, ?_⟩
  · obtain ⟨a, ha, hsummary, hcount⟩ := exists_audit_nestedSite
    obtain ⟨-, hcalls, hrender⟩ := haudit _ _ _ _ _ a ha
    have hlength := congrArg List.length hsummary
    rw [List.length_map] at hlength
    have hfound : a.report.findings ≠ [] := by
      intro hnil
      rw [hnil] at hlength
      simp at hlength
    exact ⟨a, ha, hlength, hcalls, (hrender hfound).1 (by rw [hcount]; decide)⟩
  · have hanswered : Session.Answered ⟨[]⟩ (Session.misses .disabled [Session.sampleCandidate]) []
        [(Session.sampleCandidate.signature, none)] := .unknown rfl .nil
    exact ⟨hanswered, hconclude _ _ _ _ _ hanswered⟩

end SinkAudit

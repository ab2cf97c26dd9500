import SinkAudit.Analysis.Audit
import SinkAudit.Proofs.Analysis.Reference
import SinkAudit.Proofs.Rule.Catalog
import SinkAudit.Proofs.Scan.Content

/-!
# What an audit reports

An audit has two sources: the scan, which finds candidates and names rules of the catalog in them, and
the analysis, which confirms some of the candidates and leaves them as they are.

* `audit_eq_ok`: the findings of an audit are confirmed candidates of the scan, in their order.
* `audit_ruleId_mem`: the rule of every finding is in the report, and
* `audit_nodup_rules`: no two rules of the report share an id.
-/

namespace SinkAudit

/-- Confirmed candidates stand in the order of the candidates. -/
theorem Finding.map_candidate_sublist (verdict : Candidate → Verdict) (cs : List Candidate) :
    List.Sublist ((cs.filterMap fun c => Finding.confirm c (verdict c)).map (·.candidate)) cs := by
  have hsub := map_filterMap_sublist (h := id)
    (fun c f hf => Finding.candidate_of_confirm (v := verdict c) hf) cs
  rwa [List.map_id] at hsub

namespace Scanner

/-- A candidate of a tree is a candidate of one of its files. -/
theorem exists_reports_of_mem {s : Scanner} {w : Workspace} {root : String}
    {cs : List Candidate} {c : Candidate} (h : s.scanTree w root = .ok cs) (hc : c ∈ cs) :
    ∃ path text, s.Reports path text c := by
  rw [scanTree] at h
  split at h
  case h_2 => cases h
  case h_1 =>
    obtain ⟨g, hg, rfl⟩ := exists_of_gather h
    obtain ⟨file, hfile, hcfile⟩ := List.mem_flatMap.mp hc
    have hscan := hg file hfile
    generalize g file = found at hscan hcfile
    rw [scanFile] at hscan
    split at hscan
    · obtain rfl := Except.ok.inj hscan
      exact absurd hcfile List.not_mem_nil
    · split at hscan
      · exact ⟨_, _, found, hscan, hcfile⟩
      · obtain rfl := Except.ok.inj hscan
        exact absurd hcfile List.not_mem_nil

/-- A scan names rules of its catalog only. -/
theorem ruleId_mem_of_mem_scanTree {s : Scanner} {w : Workspace} {root : String}
    {cs : List Candidate} {c : Candidate} (h : s.scanTree w root = .ok cs) (hc : c ∈ cs) :
    c.ruleId ∈ s.catalog.infos.map (·.id) := by
  obtain ⟨path, text, hreports⟩ := exists_reports_of_mem h hc
  obtain ⟨index, line, -, hsighting⟩ := mem_sightings.mp (reports_iff.mp hreports).2
  obtain ⟨-, rule, pattern, hmatch, rfl⟩ := sighting?_eq_some_iff.mp hsighting
  have hrule := (Catalog.of_matchLine_eq_some hmatch).1
  rw [Catalog.infos, List.map_map]
  exact List.mem_map_of_mem hrule

end Scanner

namespace Catalog

/-- Leaving rules out leaves the ids of the others different. -/
theorem nodup_ids_without {c : Catalog} (h : (c.rules.map (·.id)).Nodup) (ids : List String) :
    ((c.without ids).infos.map (·.id)).Nodup := by
  rw [infos, List.map_map, without]
  exact h.sublist (List.filter_sublist.map _)

end Catalog

theorem Scanner.catalog_builtin (config : ScanConfig) :
    (Scanner.builtin config).catalog = Catalog.builtin.without config.disabledRules := by
  rw [builtin]

section

variable {w : Workspace} {root : String} {config : Config} {classifier : Classifier} {now : Moment}
  {a : Audit}

/-- The report of an audit that succeeds. -/
theorem audit_eq_ok (h : audit w root config classifier now = .ok a) :
    ∃ (candidates : List Candidate) (verdict : Candidate → Verdict),
      (Scanner.builtin config.scan).scanTree w root = .ok candidates ∧
      a.report.findings = candidates.filterMap (fun c => Finding.confirm c (verdict c)) ∧
      a.report.rules = (Scanner.builtin config.scan).catalog.infos := by
  rw [audit] at h
  -- nothing here depends on which rules there are
  generalize Scanner.builtin config.scan = scanner at h ⊢
  dsimp only at h
  split at h
  case h_1 => cases h
  case h_2 candidates hscan =>
    split at h
    case isTrue hempty =>
      cases h
      obtain rfl := List.isEmpty_iff.mp hempty
      exact ⟨[], fun _ => Verdict.analysisError, hscan, rfl, rfl⟩
    case isFalse =>
      cases h
      exact ⟨candidates, _, hscan, Session.findings_analyze ⟨classifier, scanner.catalog⟩ candidates
        ⟨.ofConfig w config.cache, w, []⟩, rfl⟩

/-- An audit succeeds where its scan does. -/
theorem exists_audit {candidates : List Candidate}
    (h : (Scanner.builtin config.scan).scanTree w root = .ok candidates) (classifier : Classifier)
    (now : Moment) : ∃ a, audit w root config classifier now = .ok a := by
  rw [audit]
  generalize Scanner.builtin config.scan = scanner at h ⊢
  dsimp only
  rw [h]
  dsimp only
  split
  · exact ⟨_, rfl⟩
  · exact ⟨_, rfl⟩

/-- And it fails as its scan does. -/
theorem audit_eq_error {e : Error} (h : (Scanner.builtin config.scan).scanTree w root = .error e)
    (classifier : Classifier) (now : Moment) :
    audit w root config classifier now = .error e := by
  rw [audit]
  generalize Scanner.builtin config.scan = scanner at h ⊢
  dsimp only
  rw [h]

theorem audit_ruleId_mem (h : audit w root config classifier now = .ok a) {f : Finding}
    (hf : f ∈ a.report.findings) : f.candidate.ruleId ∈ a.report.rules.map (·.id) := by
  obtain ⟨candidates, verdict, hscan, hfindings, hrules⟩ := audit_eq_ok h
  have hcandidate : f.candidate ∈ candidates := by
    refine (Finding.map_candidate_sublist verdict candidates).mem ?_
    rw [← hfindings]
    exact List.mem_map_of_mem hf
  rw [hrules]
  exact Scanner.ruleId_mem_of_mem_scanTree hscan hcandidate

theorem audit_nodup_rules (h : audit w root config classifier now = .ok a) :
    (a.report.rules.map (·.id)).Nodup := by
  obtain ⟨candidates, verdict, -, -, hrules⟩ := audit_eq_ok h
  rw [hrules, Scanner.catalog_builtin]
  exact Catalog.nodup_ids_without Catalog.nodup_ids_builtin config.scan.disabledRules

end

/-! ## An audit of two files -/

/-- A directory beside a file whose name begins with its name, and a link that is not followed. -/
def nestedTree : Node :=
  .dir [("a", .dir [("z.js", .file 0)]), ("a.js", .file 1), ("b.ts", .link "a.js")]

def nestedSite : Workspace :=
  ⟨.dir [("ws", nestedTree)], #["eval(x)\n".toUTF8, "el.innerHTML = x\neval(x)\n".toUTF8], ["ws"]⟩

def nestedConfig : Config :=
  { scan := { disabledRules := ["SQL_INJECTION"], respectIgnoreFiles := false } }

/-- Confirms everything, and takes code injection for the less severe. -/
def gradingClassifier : Classifier := fun q =>
  .ok ⟨true, if q.vulnName == "Code Injection" then .low else .critical, "", ""⟩

/-- What a finding says of its place, its rule and its severity. -/
def Finding.summary (f : Finding) : String × Nat × String × Severity :=
  (f.candidate.file, f.candidate.line, f.candidate.ruleId, f.severity)

theorem exists_audit_nestedSite :
    ∃ a, audit nestedSite "." nestedConfig gradingClassifier ⟨0, 0⟩ = .ok a ∧
      a.report.findings.map Finding.summary =
        [("./a/z.js", 1, "CODE_INJECTION", .low), ("./a.js", 1, "XSS", .critical),
          ("./a.js", 2, "CODE_INJECTION", .low)] ∧
      a.calls.length = 3 := by
  have hrun : ((audit nestedSite "." nestedConfig gradingClassifier ⟨0, 0⟩).toOption.map
      fun a => (a.report.findings.map Finding.summary, a.calls.length)) =
        some ([("./a/z.js", 1, "CODE_INJECTION", .low), ("./a.js", 1, "XSS", .critical),
          ("./a.js", 2, "CODE_INJECTION", .low)], 3) := by
    rw [audit, Scanner.builtin, Catalog.builtin_eq]
    decide +kernel
  generalize audit nestedSite "." nestedConfig gradingClassifier ⟨0, 0⟩ = result at hrun ⊢
  cases result with
  | error e => exact absurd hrun (by simp [Except.toOption])
  | ok a => exact ⟨a, rfl, Prod.mk.inj (Option.some.inj hrun)⟩

end SinkAudit

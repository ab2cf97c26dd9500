import SinkAudit.Proofs.Analysis.Audit
import SinkAudit.Proofs.Json.Codec
import SinkAudit.Report.Render

/-!
# References in a SARIF log

A result names its rule by an id, and whoever reads the log looks the id up among the rules that its
driver lists.  The two lists come to the report by different ways, the rules from the catalog and the
results from the scan and the verdicts, so that this works is a property of audits and not of reports.

Here a printed log is read as any reader would, through the names of its members.

* `Sarif.results?_render`, `Sarif.rules?_render`: what a reader finds in a printed log.
* `Sarif.mem_usedRules_iff`: the rules that are listed, in a report that has the rules of its findings.
* `Sarif.references_resolve`: the log of an audit.
-/

namespace SinkAudit

namespace Json

/-- The member of an object with a name. -/
def member? (name : String) : Json → Option Json
  | obj members => members.lookup (some name)
  | _ => none

/-- The items of an array. -/
def items? : Json → Option (List Json)
  | arr items => some items
  | _ => none

/-- The text of a member. -/
def textOf? (name : String) (v : Json) : Option String :=
  (v.member? name).bind string?

end Json

namespace Report.Sarif

open Json (textOf?)

/-- The only run of a log. -/
def run? (log : Json) : Option Json := do
  match ← (← log.member? "runs").items? with
  | [run] => some run
  | _ => none

/-- The results in the text of a log. -/
def results? (text : String) : Option (List Json) := do
  let run ← run? (← Json.parse? text)
  (← run.member? "results").items?

/-- The rules in the text of a log. -/
def rules? (text : String) : Option (List Json) := do
  let run ← run? (← Json.parse? text)
  let driver ← (← run.member? "tool").member? "driver"
  (← driver.member? "rules").items?

/-! ## Reading a printed log -/

theorem isPlain_rule (i : RuleInfo) : (rule i).isPlain = true := by
  rw [rule]
  cases i.cwe with
  | none => rfl
  | some cwe => rfl

theorem isPlain_result (f : Finding) : (result f).isPlain = true := rfl

theorem isPlain_log (guid : String) (r : Report) : (log guid r).isPlain = true := by
  have hrules : Json.allPlain ((usedRules r).map rule) = true := allPlain_map isPlain_rule _
  have hresults : Json.allPlain (r.findings.map result) = true := allPlain_map isPlain_result _
  simp [log, Json.object, Json.isPlain, Json.membersPlain, Json.allPlain, Json.text, hrules, hresults]

theorem results?_render (guid : String) (r : Report) :
    results? (render guid r) = some (r.findings.map result) := by
  rw [results?, render, Json.parse?_pretty _ (isPlain_log guid r)]
  rfl

theorem rules?_render (guid : String) (r : Report) :
    rules? (render guid r) = some ((usedRules r).map rule) := by
  rw [rules?, render, Json.parse?_pretty _ (isPlain_log guid r)]
  rfl

theorem ruleId_result (f : Finding) : textOf? "ruleId" (result f) = some f.candidate.ruleId := rfl

theorem id_rule (i : RuleInfo) : textOf? "id" (rule i) = some i.id := by
  rw [rule]
  cases i.cwe with
  | none => rfl
  | some cwe => rfl

/-! ## The rules of a log -/

/-- Where every finding has its rule in the report, the rules that are listed are those of the
findings. -/
theorem mem_usedRules_iff {r : Report}
    (h : ∀ f ∈ r.findings, f.candidate.ruleId ∈ r.rules.map (·.id)) (id : String) :
    id ∈ (usedRules r).map (·.id) ↔ ∃ f ∈ r.findings, f.candidate.ruleId = id := by
  simp only [usedRules, List.mem_map, List.mem_filter, List.any_eq_true, beq_iff_eq]
  constructor
  · rintro ⟨i, ⟨-, f, hf, hid⟩, rfl⟩
    exact ⟨f, hf, hid⟩
  · rintro ⟨f, hf, rfl⟩
    obtain ⟨i, hi, hid⟩ := List.mem_map.mp (h f hf)
    exact ⟨i, ⟨hi, f, hf, hid.symm⟩, hid⟩

theorem usedRules_sublist (r : Report) :
    List.Sublist ((usedRules r).map (·.id)) (r.rules.map (·.id)) :=
  List.filter_sublist.map _

/-- **Referential integrity.**  The log of an audit has one result for each finding, in their order,
and it lists the rules that some result names, each of them once and in the order of the catalog, and
no others. -/
theorem references_resolve {w : Workspace} {root : String} {config : Config}
    {classifier : Classifier} {now : Moment} {a : Audit}
    (h : audit w root config classifier now = .ok a) (guid : String) :
    ∃ (text : String) (results rules : List Json) (ids : List String),
      a.report.render guid .sarif = .ok text ∧
      results? text = some results ∧
      rules? text = some rules ∧
      results = a.report.findings.map result ∧
      results.map (textOf? "ruleId") = a.report.findings.map (fun f => some f.candidate.ruleId) ∧
      rules.map (textOf? "id") = ids.map some ∧
      List.Sublist ids
        ((Catalog.builtin.without config.scan.disabledRules).infos.map (·.id)) ∧
      ids.Nodup ∧
      ∀ id, id ∈ ids ↔ some id ∈ results.map (textOf? "ruleId") := by
  obtain ⟨-, -, -, -, hrules⟩ := audit_eq_ok h
  have hsub := usedRules_sublist a.report
  have hids : (a.report.findings.map result).map (textOf? "ruleId") =
      a.report.findings.map fun f => some f.candidate.ruleId := by
    rw [List.map_map]
    exact List.map_congr_left fun f _ => ruleId_result f
  refine ⟨_, _, _, (usedRules a.report).map (·.id), rfl, results?_render guid a.report,
    rules?_render guid a.report, rfl, hids, ?_, ?_, (audit_nodup_rules h).sublist hsub, fun id => ?_⟩
  · rw [List.map_map, List.map_map]
    exact List.map_congr_left fun i _ => id_rule i
  · rwa [hrules, Scanner.catalog_builtin] at hsub
  · rw [hids, mem_usedRules_iff (fun f hf => audit_ruleId_mem h hf)]
    simp [List.mem_map]

/-- Three findings of two rules, with a third rule left out. -/
theorem references_resolve_nested :
    ∃ a, audit nestedSite "." nestedConfig gradingClassifier ⟨0, 0⟩ = .ok a ∧
      ∃ (text : String) (results rules : List Json) (ids : List String),
        a.report.render "run" .sarif = .ok text ∧
        results? text = some results ∧
        rules? text = some rules ∧
        results.map (textOf? "ruleId") =
          [some "CODE_INJECTION", some "XSS", some "CODE_INJECTION"] ∧
        rules.map (textOf? "id") = ids.map some ∧
        ids.Nodup ∧
        ∀ id, id ∈ ids ↔ id = "CODE_INJECTION" ∨ id = "XSS" := by
  obtain ⟨a, ha, hfindings, -⟩ := exists_audit_nestedSite
  obtain ⟨text, results, rules, ids, htext, hresults, hrules, -, hnames, hids, -, hnodup, hmem⟩ :=
    references_resolve ha "run"
  have hused : a.report.findings.map (fun f => some f.candidate.ruleId) =
      [some "CODE_INJECTION", some "XSS", some "CODE_INJECTION"] := by
    have hcongr := congrArg (List.map fun s => some s.2.2.1) hfindings
    rw [List.map_map] at hcongr
    exact hcongr
  rw [hused] at hnames
  refine ⟨a, ha, text, results, rules, ids, htext, hresults, hrules, hnames, hids, hnodup, fun id => ?_⟩
  rw [hmem, hnames]
  simp [or_comm]

end Report.Sarif

end SinkAudit

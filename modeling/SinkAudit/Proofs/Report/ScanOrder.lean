import Mathlib.Data.List.Pairwise
import SinkAudit.Proofs.Analysis.Audit
import SinkAudit.Proofs.Scan.Walk
import SinkAudit.Proofs.Workspace.Directories

/-!
# Findings by severity

The findings of an audit stand in the order in which the scan came to them.  A list by severity takes
them in the order of their severities, then of their paths and lines; since the scan came to them in
the order of paths and lines, and to no place twice, this is the scan order within each severity.

* `Finding.order`, `Report.precedes_eq`: the order of the list.
* `Report.bySeverity_eq`: the list, for findings in the order of a scan.
* `Report.scan_ordered`: a scan reads every file once and in order, and an audit keeps that order.
-/

namespace SinkAudit

open Std
open SinkAudit.Path (below)

/-! ## The order of findings -/

instance : TransCmp Candidate.order :=
  haveI : TransCmp fun c d : Candidate => Path.compare c.file d.file :=
    { eq_swap := OrientedCmp.eq_swap
      isLE_trans := TransCmp.isLE_trans }
  inferInstanceAs (TransCmp (compareLex (fun c d : Candidate => Path.compare c.file d.file)
    (compareOn Candidate.line)))

/-- The order of findings: the more severe first, then as their candidates. -/
def Finding.order (a b : Finding) : Ordering :=
  (compare b.severity.rank a.severity.rank).then (a.candidate.order b.candidate)

instance : TransCmp Finding.order :=
  haveI : TransCmp fun a b : Finding => a.candidate.order b.candidate :=
    { eq_swap := OrientedCmp.eq_swap
      isLE_trans := TransCmp.isLE_trans }
  inferInstanceAs (TransCmp (compareLex
    (fun a b : Finding => compareOn (fun f : Finding => f.severity.rank) b a)
    (fun a b : Finding => a.candidate.order b.candidate)))

namespace Report

theorem precedes_eq (a b : Finding) : precedes a b = (Finding.order a b).isLE := by
  rw [precedes, Finding.order, Candidate.order]
  cases compare b.severity.rank a.severity.rank with
  | lt => rfl
  | gt => rfl
  | eq =>
    cases Path.compare a.candidate.file b.candidate.file with
    | lt => rfl
    | gt => rfl
    | eq =>
      show decide (a.candidate.line ≤ b.candidate.line) =
        (compare a.candidate.line b.candidate.line).isLE
      rw [Bool.eq_iff_iff, decide_eq_true_eq, Nat.isLE_compare]

theorem pairwise_bySeverity (findings : List Finding) :
    (bySeverity findings).Pairwise fun a b => precedes a b = true := by
  refine List.pairwise_mergeSort (fun a b c hab hbc => ?_) (fun a b => ?_) findings
  · rw [precedes_eq] at *
    exact TransCmp.isLE_trans hab hbc
  · have hswap : Finding.order b a = (Finding.order a b).swap := OrientedCmp.eq_swap
    rw [precedes_eq, precedes_eq, hswap]
    cases Finding.order a b <;> rfl

/-! ## Severity by severity -/

/-- The findings of a severity. -/
def ofSeverity (findings : List Finding) (v : Severity) : List Finding :=
  findings.filter fun f => f.severity == v

theorem mem_ofSeverity {findings : List Finding} {v : Severity} {f : Finding} :
    f ∈ ofSeverity findings v ↔ f ∈ findings ∧ f.severity = v := by
  rw [ofSeverity, List.mem_filter, beq_iff_eq]

/-- The findings of some severities, taken severity by severity. -/
theorem flatMap_ofSeverity_perm_filter (findings : List Finding) {vs : List Severity}
    (h : vs.Nodup) :
    (vs.flatMap (ofSeverity findings)).Perm (findings.filter fun f => vs.contains f.severity) := by
  induction vs with
  | nil => simp
  | cons v vs ih =>
    obtain ⟨hv, hvs⟩ := List.nodup_cons.mp h
    -- Those of the first severity and the others make up the whole.
    have hfirst : ofSeverity findings v = (findings.filter fun f => (v :: vs).contains f.severity).filter
        fun f => f.severity == v := by
      rw [List.filter_filter, ofSeverity]
      refine List.filter_congr fun f _ => ?_
      rw [List.contains_cons]
      cases f.severity == v <;> rfl
    have hrest : (findings.filter fun f => vs.contains f.severity) =
        (findings.filter fun f => (v :: vs).contains f.severity).filter
          fun f => !(f.severity == v) := by
      rw [List.filter_filter]
      refine List.filter_congr fun f _ => ?_
      rw [List.contains_cons]
      by_cases hf : f.severity = v
      · rw [hf]
        simpa using hv
      · rw [beq_false_of_ne hf]
        rfl
    rw [List.flatMap_cons, hfirst]
    refine ((ih hvs).append_left _).trans ?_
    rw [hrest]
    exact List.filter_append_perm _ _

/-- Every finding has one of the severities. -/
theorem flatMap_ofSeverity_perm (findings : List Finding) :
    (Severity.all.flatMap (ofSeverity findings)).Perm findings := by
  have hnodup : Severity.all.Nodup := by decide
  have hperm := flatMap_ofSeverity_perm_filter findings hnodup
  have hall : ∀ v : Severity, Severity.all.contains v = true := by
    intro v
    cases v <;> rfl
  rwa [List.filter_eq_self.mpr fun f _ => hall f.severity] at hperm

/-- Findings in the order of a scan stay in order when they are taken severity by severity. -/
theorem pairwise_flatMap_ofSeverity {findings : List Finding}
    (h : findings.Pairwise fun a b => a.candidate.order b.candidate = .lt) :
    (Severity.all.flatMap (ofSeverity findings)).Pairwise fun a b => Finding.order a b = .lt := by
  rw [List.pairwise_flatMap]
  constructor
  · intro v _
    refine (h.filter _).imp_of_mem fun {a b} ha hb hab => ?_
    have hself : compare v.rank v.rank = .eq := ReflCmp.compare_self
    rw [Finding.order, (mem_ofSeverity.mp ha).2, (mem_ofSeverity.mp hb).2, hself, hab]
    rfl
  · have hranks : Severity.all.Pairwise fun v u => u.rank < v.rank := by decide
    refine hranks.imp fun {v u} hlt a ha b hb => ?_
    rw [Finding.order, (mem_ofSeverity.mp ha).2, (mem_ofSeverity.mp hb).2,
      Nat.compare_eq_lt.mpr hlt]
    rfl

/-- A list by severity of findings in the order of a scan has those of each severity in that order. -/
theorem bySeverity_eq {findings : List Finding}
    (h : findings.Pairwise fun a b => a.candidate.order b.candidate = .lt) :
    bySeverity findings = Severity.all.flatMap (ofSeverity findings) := by
  have hlt := pairwise_flatMap_ofSeverity h
  have hperm : (bySeverity findings).Perm (Severity.all.flatMap (ofSeverity findings)) :=
    (List.mergeSort_perm findings _).trans (flatMap_ofSeverity_perm findings).symm
  -- Two sorted arrangements are the same, since no two findings are at the same place.
  refine hperm.eq_of_pairwise (fun a b ha hb hab hba => ?_) (pairwise_bySeverity findings)
    (hlt.imp fun {a b} hab => ?_)
  · rw [precedes_eq] at hab hba
    have heq : Finding.order a b = .eq := OrientedCmp.isLE_antisymm hab hba
    have hapart : (Severity.all.flatMap (ofSeverity findings)).Pairwise
        fun a b => Finding.order a b ≠ .eq := hlt.imp fun {a b} hab => by rw [hab]; decide
    have : Symm fun a b : Finding => Finding.order a b ≠ .eq :=
      ⟨fun a b hab hba => hab (OrientedCmp.eq_symm hba)⟩
    by_contra hne
    exact hapart.forall (hperm.mem_iff.mp ha) hb hne heq
  · rw [precedes_eq, hab]
    rfl

end Report

/-! ## Roots of dots -/

namespace Path

open Workspace

/-- A path of dots. -/
def dotted : Nat → String
  | 0 => "."
  | n + 1 => "./" ++ dotted n

theorem utf8ByteSize_dotted (n : Nat) : (dotted n).utf8ByteSize = 2 * n + 1 := by
  induction n with
  | zero => rfl
  | succ n ih =>
    have hstep : "./".utf8ByteSize = 2 := rfl
    rw [dotted, String.utf8ByteSize_append, ih, hstep]
    omega

theorem toList_dotted_succ (n : Nat) :
    (dotted (n + 1)).toList = ['.'] ++ '/' :: (dotted n).toList := by
  rw [dotted, String.toList_append]
  rfl

theorem pieces_dotted (n : Nat) : ∀ k ∈ pieces [] (dotted n).toList, k = "." := by
  induction n with
  | zero => decide
  | succ n ih =>
    have hdot : pieces [] ['.'] = ["."] := rfl
    rw [toList_dotted_succ, pieces_append_slash, hdot]
    exact List.forall_mem_cons.mpr ⟨rfl, ih⟩

theorem pathFault?_dotted {n : Nat} (h : 2 * n + 1 ≤ maxPath) : pathFault? (dotted n) = none := by
  have hnul : (dotted n).toList.contains '\x00' = false := by
    clear h
    induction n with
    | zero => rfl
    | succ n ih =>
      rw [toList_dotted_succ]
      simpa using ih
  have hsize := utf8ByteSize_dotted n
  have hempty : (dotted n).isEmpty = false := by
    rw [Bool.eq_false_iff]
    intro he
    rw [String.isEmpty_iff.mp he] at hsize
    exact absurd hsize (by simp)
  rw [pathFault?, hnul, hempty, if_neg Bool.false_ne_true, if_neg Bool.false_ne_true,
    if_neg (by omega)]

/-- As long as it is short enough, it leads to the working directory. -/
theorem node_dotted {w : Workspace} {es : List (String × Node)}
    (hes : w.nodeAt? w.home = some (.dir es)) {n : Nat} (h : 2 * n + 1 ≤ maxPath) :
    w.node (dotted n) = .ok (w.home, .dir es) := by
  refine node_of_idle hes (pathFault?_dotted h) ?_ fun k hk => ?_
  · refine Bool.eq_false_iff.mpr fun hs => ?_
    obtain ⟨t, ht⟩ := startsWith_slash_iff.mp hs
    cases n with
    | zero =>
      have hhead : '.' = '/' := (List.cons.inj ht).1
      exact absurd hhead (by decide)
    | succ n =>
      rw [toList_dotted_succ] at ht
      exact absurd (List.cons.inj ht).1 (by decide)
  · exact pieces_dotted n k (List.mem_filter.mp hk).1

end Path

namespace Report

/-! ## Scans and audits -/

/-- **Order and completeness.**  A scan without ignore files reads every regular file below its root
that has an extension it looks for and a path that can be opened, each of them once and in the order
of the paths.  It succeeds if the texts of these files can all be scanned, and then its candidates are
those of the texts, in the order of paths and lines, and no place has two.  The findings of an audit keep
that order, and so does, within each severity, the list by severity.  Where a scan fails, it is by an
overflow, and the audit fails with it.  A root that is a mere dash is taken for a stream, which has no
files. -/
theorem scan_ordered {w : Workspace} {root : String} {place : Place} {es : List (String × Node)}
    (hnode : w.node root = .ok (place, .dir es)) (htidy : (Node.dir es).isTidy = true) :
    (∀ s : Scanner, s.config.respectIgnoreFiles = false →
      ∃ files : List (List String × Nat),
        (∀ names id, (names, id) ∈ files ↔
          Path.parts root ≠ [.name "-"] ∧ (Node.dir es).get? names = some (.file id) ∧
            s.isEligible (below root names) = true ∧
            (below root names).utf8ByteSize ≤ Workspace.maxPath) ∧
        files.Pairwise (fun f g => Path.compare (below root f.1) (below root g.1) = .lt) ∧
        (∀ found : List String × Nat → List Candidate,
          (∀ f ∈ files, s.scanBytes (below root f.1) (w.content f.2) = .ok (found f)) →
            s.scanTree w root = .ok (files.flatMap found)) ∧
        (∀ candidates, s.scanTree w root = .ok candidates →
          ∃ found : List String × Nat → List Candidate,
            (∀ f ∈ files, s.scanBytes (below root f.1) (w.content f.2) = .ok (found f)) ∧
            candidates = files.flatMap found ∧
            candidates.Pairwise (fun c d => c.order d = .lt) ∧
            (candidates.map fun c => (c.file, c.line)).Nodup) ∧
        ∀ e, s.scanTree w root = .error e → e = .overflow) ∧
    ∀ (config : Config) (classifier : Classifier) (now : Moment),
      config.scan.respectIgnoreFiles = false →
      (∀ candidates, (Scanner.builtin config.scan).scanTree w root = .ok candidates →
        ∃ a : Audit, audit w root config classifier now = .ok a ∧
          List.Sublist (a.report.findings.map (·.candidate)) candidates ∧
          bySeverity a.report.findings = Severity.all.flatMap fun v =>
            a.report.findings.filter fun f => f.severity == v) ∧
      ∀ e, (Scanner.builtin config.scan).scanTree w root = .error e →
        audit w root config classifier now = .error e := by
  have hroot := Scanner.ne_empty_of_node hnode
  constructor
  · intro s hoff
    have hscan := Scanner.scanTree_eq hoff hnode htidy
    refine ⟨s.targets root (.dir es), fun names id => Scanner.mem_targets_iff htidy,
      Scanner.pairwise_targets s hroot htidy, fun found hfound => ?_, fun candidates hcandidates => ?_,
      fun e he => Scanner.eq_overflow_of_scanTree hnode he⟩
    · exact hscan.trans (gather_eq_ok hfound)
    · have htargets := hscan.symm.trans hcandidates
      have horder := Scanner.pairwise_scanTargets hroot htidy htargets
      obtain ⟨found, hfound, heq⟩ := exists_of_gather htargets
      exact ⟨found, hfound, heq, horder,
        List.pairwise_map.mpr (horder.imp Candidate.place_ne_of_order)⟩
  · intro config classifier now hoff
    refine ⟨fun candidates hscan => ?_, fun e he => audit_eq_error he classifier now⟩
    obtain ⟨a, ha⟩ := exists_audit hscan classifier now
    obtain ⟨candidates', verdict, hscan', hfindings, -⟩ := audit_eq_ok ha
    obtain rfl : candidates = candidates' := Except.ok.inj (hscan.symm.trans hscan')
    have hsub : List.Sublist (a.report.findings.map (·.candidate)) candidates := by
      rw [hfindings]
      exact Finding.map_candidate_sublist verdict candidates
    refine ⟨a, ha, hsub, bySeverity_eq ?_⟩
    have htargets := (Scanner.scanTree_eq (s := Scanner.builtin config.scan) hoff hnode htidy).symm.trans
      hscan
    exact List.pairwise_map.mp ((Scanner.pairwise_scanTargets hroot htidy htargets).sublist hsub)

/-- A directory with one file in it comes before a file with a longer name, and the two less severe
findings keep that order behind the more severe one. -/
theorem scan_ordered_nested :
    nestedSite.node "." = .ok (["ws"], nestedTree) ∧ nestedTree.isTidy = true ∧
      ∃ a, audit nestedSite "." nestedConfig gradingClassifier ⟨0, 0⟩ = .ok a ∧
        a.report.findings.map Finding.summary =
          [("./a/z.js", 1, "CODE_INJECTION", .low), ("./a.js", 1, "XSS", .critical),
            ("./a.js", 2, "CODE_INJECTION", .low)] ∧
        (bySeverity a.report.findings).map Finding.summary =
          [("./a.js", 1, "XSS", .critical), ("./a/z.js", 1, "CODE_INJECTION", .low),
            ("./a.js", 2, "CODE_INJECTION", .low)] := by
  have hsmall : 2 * 0 + 1 ≤ Workspace.maxPath := by decide
  have hnode : nestedSite.node "." = .ok (["ws"], nestedTree) := Path.node_dotted rfl hsmall
  have htidy : nestedTree.isTidy = true := by decide
  obtain ⟨a, ha, hfindings, -⟩ := exists_audit_nestedSite
  obtain ⟨candidates, -, hscan, -, -⟩ := audit_eq_ok ha
  obtain ⟨a', ha', -, hby⟩ :=
    ((scan_ordered hnode htidy).2 nestedConfig gradingClassifier ⟨0, 0⟩ rfl).1 candidates hscan
  obtain rfl : a = a' := Except.ok.inj (ha.symm.trans ha')
  refine ⟨hnode, htidy, a, ha, hfindings, ?_⟩
  have hgroup : ∀ v : Severity, (a.report.findings.filter fun f => f.severity == v).map
      Finding.summary = (a.report.findings.map Finding.summary).filter fun s => s.2.2.2 == v := by
    intro v
    rw [List.filter_map]
    rfl
  rw [hby, List.map_flatMap]
  simp only [hgroup, hfindings]
  decide

/-! ## What a scan does not read -/

/-- The scanner with the built-in rules that respects no ignore files. -/
def plainScanner : Scanner := Scanner.builtin { respectIgnoreFiles := false }

/-- A directory with one file. -/
def mainTree : Node := .dir [("main.js", .file 0)]

/-- A working directory, where the first file calls a sink. -/
def callSite (tree : Node) : Workspace :=
  ⟨.dir [("ws", tree)], #["eval(x)\n".toUTF8], ["ws"]⟩

theorem isEligible_main {root : String} (hroot : root ≠ "") :
    plainScanner.isEligible (below root ["main.js"]) = true := by
  have hname : Path.fileName? (below root ["main.js"]) = some "main.js" :=
    Path.fileName?_join hroot (by decide)
  rw [Scanner.isEligible, Path.extension?, hname]
  decide

theorem node_dash :
    (callSite (.dir [("-", mainTree)])).node "-" = .ok (["-", "ws"], mainTree) := by
  have hhome : (callSite (.dir [("-", mainTree)])).nodeAt? ["ws"] =
      some (.dir [("-", mainTree)]) := rfl
  have hstands : Workspace.StandsIn (callSite (.dir [("-", mainTree)])) "-" "-" ["ws"] :=
    Workspace.standsIn_home hhome ⟨by decide, by decide, by decide⟩ (by decide) (by decide)
  have hlink : ∀ s, Node.child? "-" [("-", mainTree)] ≠ some (.link s) := by
    intro s
    simp [Node.child?, mainTree]
  rw [Workspace.node, hstands.resolve_eq hhome (Or.inr fun _ => hlink), Workspace.lastTarget]
  rfl

/-- No file is read where the path of the directory is as long as a path may be. -/
theorem scanTree_long {root : String} {w : Workspace} {place : Place}
    (hnode : w.node root = .ok (place, mainTree)) (hlong : Workspace.maxPath < root.utf8ByteSize + 7) :
    plainScanner.scanTree w root = .ok [] := by
  have hroot := Scanner.ne_empty_of_node hnode
  have hname : "main.js".utf8ByteSize = 7 := rfl
  have hsize : root.utf8ByteSize + "main.js".utf8ByteSize ≤
      (Path.join root "main.js").utf8ByteSize := Path.utf8ByteSize_le_join hroot (by decide)
  have hopen : Walk.canOpen (Walk.located root (["main.js"], 0)) = false := by
    show decide ((Path.join root "main.js").utf8ByteSize ≤ Workspace.maxPath) = false
    rw [decide_eq_false_iff_not]
    omega
  have hnone : plainScanner.targets root mainTree = [] := by
    rw [Scanner.targets]
    split
    · rfl
    · refine List.filter_eq_nil_iff.mpr fun f hf => ?_
      obtain rfl : f = (["main.js"], 0) := List.mem_singleton.mp hf
      rw [hopen, Bool.and_false]
      exact Bool.false_ne_true
  have hscan : plainScanner.scanTree w root = plainScanner.scanTargets w root mainTree :=
    Scanner.scanTree_eq rfl hnode (by decide)
  rw [hscan, Scanner.scanTargets, hnone, gather]

theorem scanTree_dash : plainScanner.scanTree (callSite (.dir [("-", mainTree)])) "-" = .ok [] := by
  rw [Scanner.scanTree_eq rfl node_dash (by decide), Scanner.scanTargets, Scanner.targets]
  rfl

/-- The text of the file has a candidate, whatever its path is. -/
theorem exists_scanBytes_call (path : String) :
    ∃ c cs, plainScanner.scanBytes path "eval(x)\n".toUTF8 = .ok (c :: cs) := by
  have hread : String.fromUTF8? "eval(x)\n".toUTF8 = some "eval(x)\n" := by decide +kernel
  have hcall : Scanner.callAt { respectIgnoreFiles := false } path "eval(x)\n" 0 ∈
      plainScanner.sightings path "eval(x)\n" :=
    Scanner.call_mem_sightings rfl (by decide) (by decide) path
  obtain ⟨c, cs, hsightings⟩ := List.exists_cons_of_ne_nil (List.ne_nil_of_mem hcall)
  refine ⟨c, cs, ?_⟩
  rw [Scanner.scanBytes, hread]
  exact (Scanner.scanContent_of_fits (Scanner.fits_of_length (by decide)) path).trans
    (congrArg Except.ok hsightings)

/-- **Files that are not read.**  A file is there, and its text has a candidate, but a scan reads
nothing: neither where the path of the file is too long to open, nor below a dash. -/
theorem unread_files :
    (callSite mainTree).node (Path.dotted 2045) = .ok (["ws"], mainTree) ∧
    plainScanner.isEligible (below (Path.dotted 2045) ["main.js"]) = true ∧
    (∃ c cs, plainScanner.scanBytes (below (Path.dotted 2045) ["main.js"])
      ((callSite mainTree).content 0) = .ok (c :: cs)) ∧
    plainScanner.scanTree (callSite mainTree) (Path.dotted 2045) = .ok [] ∧
    (callSite (.dir [("-", mainTree)])).node "-" = .ok (["-", "ws"], mainTree) ∧
    plainScanner.isEligible (below "-" ["main.js"]) = true ∧
    (∃ c cs, plainScanner.scanBytes (below "-" ["main.js"])
      ((callSite (.dir [("-", mainTree)])).content 0) = .ok (c :: cs)) ∧
    plainScanner.scanTree (callSite (.dir [("-", mainTree)])) "-" = .ok [] := by
  have hnode : (callSite mainTree).node (Path.dotted 2045) = .ok (["ws"], mainTree) :=
    Path.node_dotted rfl (by decide)
  have hlong : Workspace.maxPath < (Path.dotted 2045).utf8ByteSize + 7 := by
    rw [Path.utf8ByteSize_dotted]
    decide
  exact ⟨hnode, isEligible_main (Scanner.ne_empty_of_node hnode), exists_scanBytes_call _,
    scanTree_long hnode hlong, node_dash, isEligible_main (by decide), exists_scanBytes_call _,
    scanTree_dash⟩

end Report

end SinkAudit

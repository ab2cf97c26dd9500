import SinkAudit.Proofs.Analysis.Origin

/-!
# Batches

Candidates may be analysed all at once, in two batches, or one by one.  A signature that occurs on both
sides of a cut is met twice by one analysis, which asks about the first candidate and passes over the
second; if there are two analyses, then the first asks, and the second finds the verdict in the store.
So the cut does not show, as long as asking about the first batch does not fail: a failure leaves
nothing in the store, and the second analysis would ask again.

The log is written anew at the end of each analysis, so that the two ways differ in how often that
happens.  They end with the same bytes, since writing anew depends on memory alone.

* `firstOccurrences_append`, `Session.misses_append`: the candidates to ask about, on both sides of a cut.
* `Session.keptVerdict?_append`: the verdicts that the two ways leave.
* `Session.analyze_in_batches`: findings, requests, memory and log of the two ways.
* `Session.analyze_singleton`: a batch of one is a single judgement, after which the log is written anew;
  `Session.single_agrees_with_batch`: so the two agree in all that can be seen.
-/

namespace SinkAudit

/-! ## First occurrences on both sides of a cut -/

/-- The keys that were seen before are left out, and nothing else is. -/
theorem firstOccurrences_eq_filter :
    ∀ (l : List (String × Candidate)) (seen : List String),
      firstOccurrences seen l = (firstOccurrences [] l).filter fun p => !seen.contains p.1
  | [], seen => rfl
  | (k, c) :: l, seen => by
    have hempty : firstOccurrences [] ((k, c) :: l) = (k, c) :: firstOccurrences [k] l := rfl
    rw [hempty, firstOccurrences, firstOccurrences_eq_filter l [k]]
    by_cases hk : seen.contains k = true
    · rw [if_pos hk, firstOccurrences_eq_filter l seen, List.filter_cons_of_neg (by simpa using hk),
        List.filter_filter]
      refine List.filter_congr fun p _ => ?_
      by_cases hp : p.1 = k
      · rw [hp, hk]
        rfl
      · simp [hp]
    · rw [if_neg hk, firstOccurrences_eq_filter l (k :: seen),
        List.filter_cons_of_pos (by simpa using hk), List.filter_filter]
      refine congrArg _ (List.filter_congr fun p _ => ?_)
      simp [Bool.and_comm]

/-- Behind a cut, the keys that occur before it are left out. -/
theorem firstOccurrences_append (m : List (String × Candidate)) :
    ∀ (l : List (String × Candidate)) (seen : List String),
      firstOccurrences seen (l ++ m) = firstOccurrences seen l ++
        (firstOccurrences [] m).filter fun p => !seen.contains p.1 && !(l.map (·.1)).contains p.1
  | [], seen => by
    rw [List.nil_append, firstOccurrences_eq_filter]
    simp [firstOccurrences]
  | (k, c) :: l, seen => by
    rw [List.cons_append, firstOccurrences, firstOccurrences]
    by_cases hk : seen.contains k = true
    · rw [if_pos hk, if_pos hk, firstOccurrences_append m l seen]
      refine congrArg _ (List.filter_congr fun p _ => ?_)
      rw [List.map_cons, List.contains_cons]
      cases hp : p.1 == k with
      | false => rw [Bool.false_or]
      | true => rw [beq_iff_eq.mp hp, hk, Bool.not_true, Bool.false_and, Bool.false_and]
    · rw [if_neg hk, if_neg hk, firstOccurrences_append m l (k :: seen), List.cons_append]
      refine congrArg _ (congrArg _ (List.filter_congr fun p _ => ?_))
      rw [List.map_cons, List.contains_cons, List.contains_cons]
      cases p.1 == k with
      | false => rw [Bool.false_or, Bool.false_or]
      | true => rw [Bool.true_or, Bool.true_or, Bool.not_true, Bool.false_and, Bool.and_false]

namespace Analyzer

theorem outcome_eq_some_iff {a : Analyzer} {c : Candidate} {v : Verdict} :
    a.outcome c = some v ↔ ∃ q, a.request c = .ok q ∧ a.classifier q = .ok v := by
  rw [outcome]
  cases a.request c with
  | error e => simp
  | ok q =>
    cases hq : a.classifier q with
    | error e => simp [hq, Except.toOption]
    | ok u => simp [hq, Except.toOption]

end Analyzer

namespace Session

/-! ## Two batches -/

section Batches

variable {a : Analyzer} {s : Session} {as bs : List Candidate} {sig : String}

/-- Where asking does not fail, a signature without a verdict is one that does not occur. -/
theorem keptVerdict?_eq_none_iff (hok : ∀ c ∈ as, ∃ v, a.outcome c = some v) (store : Store) :
    keptVerdict? a store as sig = none ↔
      store.get? sig = none ∧ sig ∉ as.map Candidate.signature := by
  rw [keptVerdict?, Option.or_eq_none_iff, Option.bind_eq_none_iff]
  refine and_congr_right fun _ => ⟨fun h hmem => ?_, fun h c hc => ?_⟩
  · obtain ⟨d, hd, rfl⟩ := List.mem_map.mp hmem
    obtain ⟨c, hc⟩ := exists_first hd
    obtain ⟨v, hv⟩ := hok c (first_spec hc).1
    rw [h c hc] at hv
    exact absurd hv (by simp)
  · obtain ⟨hmem, rfl⟩ := first_spec hc
    exact absurd (List.mem_map_of_mem hmem) h

/-- The candidates to ask about are those of the first batch, and then those of the second for which
the first has left no verdict. -/
theorem misses_append (henabled : s.store.isEnabled = true)
    (hok : ∀ c ∈ as, ∃ v, a.outcome c = some v) (bs : List Candidate) :
    misses s.store (as ++ bs) = misses s.store as ++ misses (s.analyze a as).2.store bs := by
  rw [misses, misses, misses, List.map_append, firstOccurrences_append, List.filter_append,
    List.filter_filter]
  refine congrArg _ (List.filter_congr fun p _ => ?_)
  rw [get?_analyze henabled, Bool.eq_iff_iff]
  have hkeys : (as.map fun c => (c.signature, c)).map (·.1) = as.map Candidate.signature := by
    rw [List.map_map]
    rfl
  simp [hkeys, keptVerdict?_eq_none_iff hok]

/-- The two ways leave the same verdicts. -/
theorem keptVerdict?_append (henabled : s.store.isEnabled = true)
    (hok : ∀ c ∈ as, ∃ v, a.outcome c = some v) (bs : List Candidate) (sig : String) :
    keptVerdict? a s.store (as ++ bs) sig = keptVerdict? a (s.analyze a as).2.store bs sig := by
  rw [keptVerdict?, keptVerdict?, get?_analyze henabled, keptVerdict?, List.find?_append]
  cases hfind : as.find? fun c => c.signature == sig with
  | none => rw [Option.none_or, Option.bind_none, Option.or_none]
  | some c =>
    obtain ⟨v, hv⟩ := hok c (first_spec hfind).1
    rw [Option.some_or, Option.bind_some, hv, Option.or_assoc, Option.some_or]

/-- A later batch does not matter to the candidates of an earlier one. -/
theorem keptVerdict?_append_of_mem (store : Store) {c : Candidate} (hc : c ∈ as)
    (bs : List Candidate) :
    keptVerdict? a store (as ++ bs) c.signature = keptVerdict? a store as c.signature := by
  obtain ⟨d, hd⟩ := exists_first hc
  rw [keptVerdict?, keptVerdict?, List.find?_append, hd, Option.some_or]

/-- The store and the workspace that an analysis leaves: verdicts are put, and the log is written
anew. -/
theorem store_disk_analyze (a : Analyzer) (cs : List Candidate) (s : Session) :
    ((s.analyze a cs).2.store, (s.analyze a cs).2.disk) =
      ((Store.putAll (puts a (misses s.store cs)) (s.store, s.disk)).1.flush
        (Store.putAll (puts a (misses s.store cs)) (s.store, s.disk)).2).2 := by
  rw [← judgeAll_putAll]
  rfl

theorem isEnabled_analyze (a : Analyzer) (cs : List Candidate) (s : Session) :
    (s.analyze a cs).2.store.isEnabled = s.store.isEnabled := by
  have hstore := congrArg Prod.fst (store_disk_analyze a cs s)
  dsimp only at hstore
  rw [hstore, Store.isEnabled_flush, Store.isEnabled_putAll]

theorem entries_analyze (henabled : s.store.isEnabled = true) (a : Analyzer) (cs : List Candidate) :
    (s.analyze a cs).2.store.entries =
      (puts a (misses s.store cs)).foldl (fun m e => m.insert e.1 e.2) s.store.entries := by
  have hstore := congrArg Prod.fst (store_disk_analyze a cs s)
  dsimp only at hstore
  rw [hstore, Store.entries_flush, Store.entries_putAll _ _ henabled]

/-- The bytes of the log do not show how often it was written anew. -/
theorem read_analyze_append {w : Workspace} {path : String}
    {hist : List (Candidate × Option Verdict)} (hplace : Store.LogPlace w path)
    (hrun : Run path (opened w path) hist s)
    (hmisses : misses s.store (as ++ bs) = misses s.store as ++ misses (s.analyze a as).2.store bs) :
    (s.analyze a (as ++ bs)).2.disk.read path =
      ((s.analyze a as).2.analyze a bs).2.disk.read path := by
  have hwhole := congrArg Prod.snd (store_disk_analyze a (as ++ bs) s)
  have hsecond := congrArg Prod.snd (store_disk_analyze a bs (s.analyze a as).2)
  have hputs : puts a (misses s.store (as ++ bs)) =
      puts a (misses s.store as) ++ puts a (misses (s.analyze a as).2.store bs) := by
    rw [hmisses]
    exact List.filterMap_append
  obtain ⟨k, hk⟩ := hplace.named
  have hused := (used_run hrun).putAll (puts a (misses s.store as))
  obtain ⟨bytes, hheld⟩ := hused.exists_held hplace hk
  dsimp only at hwhole hsecond
  rw [hwhole, hsecond, hputs, Store.putAll_append, store_disk_analyze a as s]
  exact (hheld.read_flush_between _).symm

end Batches

/-- **Batches.**  If asking about the candidates does not fail, then analysing them at once or in two
batches gives the same findings, makes the same requests and leaves the same memory.  In the course of a
run from a path where a log can be kept, it also leaves the same bytes in the log. -/
theorem analyze_in_batches {a : Analyzer} {s : Session} (henabled : s.store.isEnabled = true)
    {as bs : List Candidate}
    (hok : ∀ c ∈ as ++ bs, ∃ q v, a.request c = .ok q ∧ a.classifier q = .ok v) :
    (s.analyze a (as ++ bs)).1.findings =
        (s.analyze a as).1.findings ++ ((s.analyze a as).2.analyze a bs).1.findings ∧
      (s.analyze a (as ++ bs)).2.calls = ((s.analyze a as).2.analyze a bs).2.calls ∧
      (s.analyze a (as ++ bs)).2.store.entries =
        ((s.analyze a as).2.analyze a bs).2.store.entries ∧
      ∀ (w : Workspace) (path : String) (hist : List (Candidate × Option Verdict)),
        Store.LogPlace w path → Run path (opened w path) hist s →
        (s.analyze a (as ++ bs)).2.disk.read path =
          ((s.analyze a as).2.analyze a bs).2.disk.read path := by
  have hgiven : ∀ c ∈ as, ∃ v, a.outcome c = some v := by
    intro c hc
    obtain ⟨q, v, hq, hv⟩ := hok c (List.mem_append_left bs hc)
    exact ⟨v, Analyzer.outcome_eq_some_iff.mpr ⟨q, hq, hv⟩⟩
  have hmisses := misses_append henabled hgiven bs
  refine ⟨?_, ?_, ?_, fun w path hist hplace hrun => read_analyze_append hplace hrun hmisses⟩
  · rw [findings_analyze, findings_analyze, findings_analyze, List.filterMap_append]
    refine congrArg₂ _ (List.filterMap_congr fun c hc => ?_) (List.filterMap_congr fun c _ => ?_)
    · rw [keptVerdict?_append_of_mem s.store hc]
    · rw [keptVerdict?_append henabled hgiven]
  · rw [calls_analyze, calls_analyze, calls_analyze, hmisses, List.flatMap_append,
      List.append_assoc]
  · have henabled' := (isEnabled_analyze a as s).trans henabled
    rw [entries_analyze henabled, entries_analyze henabled', entries_analyze henabled, hmisses, puts,
      List.filterMap_append, List.foldl_append]
    rfl

/-- A signature on both sides of a cut, with a new one behind it, after a log that stops in the middle of
a row. -/
theorem analyze_in_batches_torn :
    Store.LogPlace Store.tornSite "log" ∧
      Run "log" (opened Store.tornSite "log") [] (opened Store.tornSite "log") ∧
      (∀ c ∈ [sampleCandidate] ++ [movedCandidate, otherCandidate], ∃ q v,
        sampleAnalyzer.request c = .ok q ∧ sampleAnalyzer.classifier q = .ok v) ∧
      ((opened Store.tornSite "log").analyze sampleAnalyzer
          ([sampleCandidate] ++ [movedCandidate, otherCandidate])).2.calls =
        (((opened Store.tornSite "log").analyze sampleAnalyzer [sampleCandidate]).2.analyze
          sampleAnalyzer [movedCandidate, otherCandidate]).2.calls ∧
      ((opened Store.tornSite "log").analyze sampleAnalyzer
          ([sampleCandidate] ++ [movedCandidate, otherCandidate])).2.disk.read "log" =
        (((opened Store.tornSite "log").analyze sampleAnalyzer [sampleCandidate]).2.analyze
          sampleAnalyzer [movedCandidate, otherCandidate]).2.disk.read "log" := by
  have hok : ∀ c ∈ [sampleCandidate] ++ [movedCandidate, otherCandidate], ∃ q v,
      sampleAnalyzer.request c = .ok q ∧ sampleAnalyzer.classifier q = .ok v := by
    intro c hc
    rcases List.mem_cons.mp hc with rfl | hc
    · exact ⟨_, _, rfl, rfl⟩
    · rcases List.mem_pair.mp hc with rfl | rfl
      · exact ⟨_, _, rfl, rfl⟩
      · exact ⟨_, _, rfl, rfl⟩
  have henabled : (opened Store.tornSite "log").store.isEnabled = true :=
    Store.isEnabled_openAt Store.tornSite "log"
  obtain ⟨-, hcalls, -, hread⟩ := analyze_in_batches henabled hok
  exact ⟨Store.logSite_tornSite.logPlace, .nil, hok, hcalls,
    hread Store.tornSite "log" [] Store.logSite_tornSite.logPlace .nil⟩

/-! ## A batch of one -/

section Single

variable (a : Analyzer) (c : Candidate) (s : Session)

theorem misses_singleton :
    misses s.store [c] = if s.store.get? c.signature = none then [(c.signature, c)] else [] := by
  have hone : firstOccurrences [] ([c].map fun c => (c.signature, c)) = [(c.signature, c)] := rfl
  rw [misses, hone, List.filter_singleton]
  cases s.store.get? c.signature with
  | none => rfl
  | some v => rfl

/-- The candidate is judged if its verdict is not known, and nothing else happens. -/
theorem analyzeOne_eq :
    s.analyzeOne a c = ((keptVerdict? a s.store [c] c.signature).getD Verdict.analysisError,
      (judgeAll a (misses s.store [c]) s).2) := by
  have hfirst : [c].find? (fun d => d.signature == c.signature) = some c :=
    List.find?_cons_of_pos (beq_self_eq_true _)
  rw [analyzeOne, misses_singleton, keptVerdict?, hfirst, Option.bind_some]
  cases s.store.get? c.signature with
  | some v => rfl
  | none =>
    dsimp only
    rw [if_pos rfl, judgeAll_snd, judge_eq, Option.none_or]
    rfl

/-- A batch of one is a single judgement, after which the log is written anew. -/
theorem analyze_singleton : (s.analyze a [c]).2 = (s.analyzeOne a c).2.settle := by
  rw [analyzeOne_eq, analyze_eq]

theorem findings_singleton :
    (s.analyze a [c]).1.findings = (Finding.confirm c (s.analyzeOne a c).1).toList := by
  rw [findings_analyze, analyzeOne_eq, List.filterMap_cons]
  cases Finding.confirm c ((keptVerdict? a s.store [c] c.signature).getD Verdict.analysisError) with
  | none => rfl
  | some f => rfl

end Single

end Session

namespace Store

theorem run_put (path : String) :
    ∀ (l : List (String × Verdict)) (x : Store × Workspace),
      run path (l.map fun e => .put e.1 e.2) x = putAll l x
  | [], _ => rfl
  | (sig, v) :: l, (s, w) => run_put path l (s.put w sig v).2

end Store

namespace Session

/-- All that judging does to the store is to put verdicts. -/
theorem exists_run_analyzeOne (path : String) (a : Analyzer) (c : Candidate) (s : Session) :
    ∃ acts, Store.run path acts (s.store, s.disk) =
      ((s.analyzeOne a c).2.store, (s.analyzeOne a c).2.disk) := by
  rw [analyzeOne_eq, judgeAll_putAll, ← Store.run_put path]
  exact ⟨_, rfl⟩

/-- **One by one.**  Judging a candidate by itself and analysing a batch of it alone make the same
requests and leave the same memory; the finding of the batch is the one for the verdict that is given;
and they differ only in that the batch writes the log anew.  So where the log can be kept, the logs they
leave are read alike. -/
theorem single_agrees_with_batch (a : Analyzer) (c : Candidate) (s : Session) :
    (s.analyze a [c]).2.calls = (s.analyzeOne a c).2.calls ∧
      (s.analyze a [c]).2.store.entries = (s.analyzeOne a c).2.store.entries ∧
      (s.analyze a [c]).1.findings = (Finding.confirm c (s.analyzeOne a c).1).toList ∧
      (s.analyze a [c]).2 = (s.analyzeOne a c).2.settle ∧
      ∀ (w : Workspace) (path : String) (acts : List Store.Action), Store.LogSite w path →
        Store.run path acts (Store.openAt w path, w) = (s.store, s.disk) →
        (Store.openAt (s.analyze a [c]).2.disk path).entries =
          (Store.openAt (s.analyzeOne a c).2.disk path).entries := by
  have hsettle := analyze_singleton a c s
  have hentries : (s.analyze a [c]).2.store.entries = (s.analyzeOne a c).2.store.entries := by
    rw [hsettle]
    exact Store.entries_flush _ _
  refine ⟨by rw [hsettle, calls_settle], hentries, findings_singleton a c s, hsettle,
    fun w path acts hsite hacts => ?_⟩
  obtain ⟨k, hk⟩ := hsite.named
  have hkept := (Store.Kept.run acts (hsite.kept_openAt hk)).1
  rw [hacts] at hkept
  obtain ⟨puts, hputs⟩ := exists_run_analyzeOne path a c s
  have hsingle := (Store.Kept.run puts hkept).1
  rw [hputs] at hsingle
  have hbatch := (Store.Kept.run [.flush] hsingle).1
  -- Each of the two logs is read as what the store has in memory.
  rw [hsingle.openAt_entries, ← hentries, hsettle]
  exact hbatch.openAt_entries

/-- The store after one verdict has been put behind a row that is torn. -/
def reusedSession : Session :=
  ⟨(Store.run "log" [.put "sig" .analysisError] (Store.openAt Store.tornSite "log", Store.tornSite)).1,
    (Store.run "log" [.put "sig" .analysisError] (Store.openAt Store.tornSite "log", Store.tornSite)).2,
    []⟩

theorem single_agrees_with_batch_torn :
    Store.LogSite Store.tornSite "log" ∧
      Store.run "log" [.put "sig" .analysisError] (Store.openAt Store.tornSite "log", Store.tornSite) =
        (reusedSession.store, reusedSession.disk) ∧
      (Store.openAt (reusedSession.analyze sampleAnalyzer [sampleCandidate]).2.disk "log").entries =
        (Store.openAt (reusedSession.analyzeOne sampleAnalyzer sampleCandidate).2.disk "log").entries :=
  by
  obtain ⟨-, -, -, -, hread⟩ := single_agrees_with_batch sampleAnalyzer sampleCandidate reusedSession
  exact ⟨Store.logSite_tornSite, rfl,
    hread Store.tornSite "log" [.put "sig" .analysisError] Store.logSite_tornSite rfl⟩

end Session

end SinkAudit

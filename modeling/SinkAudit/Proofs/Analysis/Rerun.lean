import SinkAudit.Proofs.Analysis.Reference
import SinkAudit.Proofs.Analysis.Schedule

/-!
# Analysing again

The verdicts of an analysis outlive it in the log.  A later analysis, with a classifier of its own, does
not ask again about a signature that the earlier one has a verdict on.

* `Session.get?_analyze`: after an analysis, memory has the verdicts that it has used;
  `Session.get?_openAt_of_analysed`: and so has a store that is opened at the log later.
* `Session.length_hits_add_length_misses`: every signature is found in the store or asked about.
* `Session.exists_calls_again`, `Session.served_of_given`: the later analysis, with any answers.
* `Session.rerun_from_log`: what the later analysis asks; if there is nothing to ask, then it finds what
  the earlier one would, and leaves the workspace as it is.
-/

namespace SinkAudit

theorem Store.isEnabled_openAt (w : Workspace) (path : String) :
    (Store.openAt w path).isEnabled = true := by
  rw [Store.openAt]
  split <;> rfl

theorem Store.appended_openAt (w : Workspace) (path : String) :
    (Store.openAt w path).appended = 0 := by
  rw [Store.openAt]
  split <;> rfl

namespace Session

/-- A session that starts with opening the log at a path. -/
def opened (w : Workspace) (path : String) : Session := ⟨Store.openAt w path, w, []⟩

/-- What an analysis leaves for a signature is what it judges the candidates by. -/
theorem referenceVerdict_of_keptVerdict? {a : Analyzer} {store : Store} {cs : List Candidate}
    {sig : String} {v : Verdict} (h : keptVerdict? a store cs sig = some v) :
    referenceVerdict a store cs sig = v := by
  rw [referenceVerdict_eq_getD, h, Option.getD_some]

/-- Memory after an analysis. -/
theorem get?_analyze {a : Analyzer} {cs : List Candidate} {s : Session} {sig : String}
    (henabled : s.store.isEnabled = true) :
    (s.analyze a cs).2.store.get? sig = keptVerdict? a s.store cs sig := by
  obtain ⟨calls, h, -⟩ := analysed_analyze a cs s
  rw [get?_of_analysed h henabled, givenVerdict?_outcomes]

/-! ## The log after an analysis -/

section Logs

variable {catalog : Catalog} {cs : List Candidate} {s s' : Session}
  {calls : List (Request × Except ClassifyError Verdict)} {judged : List (String × Option Verdict)}
  {o : Outcome}

/-- An analysis keeps what its log says in agreement with memory. -/
theorem kept_of_analysed {path k : String} (h : Store.Kept path k s.store s.disk)
    (ha : Analysed catalog cs s calls judged o s') : Store.Kept path k s'.store s'.disk := by
  cases ha with
  | @intro made calls judged kept answered asked order =>
    have hkept := Store.Kept.putAll (given kept) h
    rw [← keepAll_putAll kept { s with calls := s.calls ++ calls.map (·.1) }] at hkept
    obtain ⟨r, store, disk, hflush, -, hkept'⟩ := hkept.flush
    rw [settle, hflush]
    exact hkept'

/-- A store that is opened after an analysis has what the analysis left. -/
theorem get?_openAt_of_analysed {w : Workspace} {path : String} (h : Store.LogSite w path)
    (ha : Analysed catalog cs (opened w path) calls judged o s') (sig : String) :
    (Store.openAt s'.disk path).get? sig = givenVerdict? (Store.openAt w path) judged sig := by
  obtain ⟨k, hk⟩ := h.named
  have hkept : Store.Kept path k (opened w path).store (opened w path).disk := h.kept_openAt hk
  have hentries := (kept_of_analysed hkept ha).openAt_entries
  rw [Store.get?, hentries]
  exact get?_of_analysed ha (Store.isEnabled_openAt w path) sig

/-- An analysis that has nothing to ask changes nothing, if nothing has been appended to the log. -/
theorem analysed_of_misses_eq_nil (h : Analysed catalog cs s calls judged o s')
    (hmisses : misses s.store cs = []) (happended : s.store.appended = 0) :
    judged = [] ∧ o = conclude s.store cs [] ∧ s' = s := by
  cases h with
  | intro answered asked order =>
    rw [hmisses] at answered
    cases answered with
    | nil =>
      obtain rfl := asked.eq_nil
      obtain rfl := order.eq_nil
      refine ⟨rfl, rfl, ?_⟩
      rw [keepAll, settle, Store.flush, happended, List.map_nil, List.append_nil]
      rfl

end Logs

/-- Every signature of the candidates is found in the store or asked about. -/
theorem length_hits_add_length_misses (store : Store) (cs : List Candidate) :
    (hits store cs).length + (misses store cs).length =
      (firstOccurrences [] (cs.map fun c => (c.signature, c))).length := by
  rw [hits, misses]
  generalize firstOccurrences [] (cs.map fun c => (c.signature, c)) = unique
  induction unique with
  | nil => rfl
  | cons p unique ih =>
    cases hp : store.get? p.1 with
    | none =>
      rw [List.filterMap_cons_none (by rw [hp]; rfl), List.filter_cons_of_pos (by rw [hp]; rfl),
        List.length_cons, List.length_cons]
      omega
    | some v =>
      rw [List.filterMap_cons_some (b := (p.1, v)) (by rw [hp]; rfl),
        List.filter_cons_of_neg (by rw [hp]; simp), List.length_cons, List.length_cons]
      omega

/-- A session that opens the log anew after candidates have been analysed with it. -/
def later (w : Workspace) (path : String) (a : Analyzer) (as : List Candidate) : Session :=
  opened ((opened w path).analyze a as).2.disk path

section Again

variable {catalog catalog' : Catalog} {as bs : List Candidate} {w : Workspace} {path : String}
  {s s' : Session} {calls calls' : List (Request × Except ClassifyError Verdict)}
  {judged judged' : List (String × Option Verdict)} {o o' : Outcome} (h : Store.LogSite w path)
  (ha : Analysed catalog as (opened w path) calls judged o s)
  (hb : Analysed catalog' bs (opened s.disk path) calls' judged' o' s')

include h ha hb

/-- The calls of a later analysis: one for each signature that has no verdict yet. -/
theorem exists_calls_again :
    ∃ made : List (String × Request), s'.calls.Perm (made.map (·.2)) ∧
      ∀ sig q, (sig, q) ∈ made ↔ givenVerdict? (Store.openAt w path) judged sig = none ∧
        ∃ c r, bs.find? (fun c => c.signature == sig) = some c ∧
          catalog'.lookup c.ruleId = .ok r ∧ q = .ofCandidate c r := by
  obtain ⟨made, hperm, -, hmade, -⟩ := calls_signed_of_analysed hb
  refine ⟨made.map fun m => (m.1, m.2.1), ?_, fun sig q => ?_⟩
  · have hcalls := hperm.map (·.1)
    rw [List.map_map] at hcalls
    rw [calls_of_analysed hb, List.map_map]
    exact hcalls
  · rw [← get?_openAt_of_analysed h ha]
    refine Iff.trans ?_ (hmade sig q)
    simp [List.mem_map]

/-- A later analysis of signatures that all have a verdict. -/
theorem served_of_given
    (hall : ∀ c ∈ bs, givenVerdict? (Store.openAt w path) judged c.signature ≠ none) :
    s'.calls = [] ∧ o'.stats.cacheHits = o'.stats.unique ∧ o'.stats.classified = 0 ∧
      o'.stats.failures = 0 ∧
      o'.findings = bs.filterMap (fun c => Finding.confirm c
        ((givenVerdict? (Store.openAt w path) judged c.signature).getD Verdict.analysisError)) ∧
      s'.disk = s.disk := by
  have hget := get?_openAt_of_analysed h ha
  have hmisses : misses (opened s.disk path).store bs = [] := by
    refine List.eq_nil_iff_forall_not_mem.mpr ?_
    rintro ⟨sig, c⟩ hmem
    obtain ⟨hnone, hc⟩ := mem_misses.mp hmem
    obtain ⟨hmem, hsig⟩ := first_spec hc
    refine hall c hmem ?_
    rw [← hget, hsig]
    exact hnone
  have hfindings := findings_of_analysed hb
  obtain ⟨rfl, rfl, rfl⟩ := analysed_of_misses_eq_nil hb hmisses (Store.appended_openAt _ _)
  have hlength := length_hits_add_length_misses (opened s.disk path).store bs
  rw [hmisses] at hlength
  refine ⟨rfl, hlength, rfl, rfl, hfindings.trans ?_, rfl⟩
  refine List.filterMap_congr fun c _ => ?_
  rw [← hget, givenVerdict?, List.find?_nil, Option.bind_none, Option.or_none]
  rfl

end Again

/-- **Analysing again.**  Candidates are analysed with the log at a path, and then others, by any other
analyzer, in a session that opens the log anew.  The second analysis asks about the signatures that the
first has left without a verdict, and about no other.  If there is none, then it asks nothing, counts
nothing but hits, judges every candidate by the verdict that the first analysis used for its signature,
and leaves the workspace as it is.  All this holds as well if the calls of both analyses are answered in any
way, and made in any order. -/
theorem rerun_from_log {w : Workspace} {path : String} (h : Store.LogSite w path) (a b : Analyzer)
    (as bs : List Candidate) :
    (∃ made : List (String × Request),
      ((later w path a as).analyze b bs).2.calls = made.map (·.2) ∧
        ∀ sig q, (sig, q) ∈ made ↔ keptVerdict? a (Store.openAt w path) as sig = none ∧
          ∃ c, bs.find? (fun c => c.signature == sig) = some c ∧ b.request c = .ok q) ∧
      ((∀ c ∈ bs, keptVerdict? a (Store.openAt w path) as c.signature ≠ none) →
        ((later w path a as).analyze b bs).2.calls = [] ∧
        ((later w path a as).analyze b bs).1.stats.cacheHits =
          ((later w path a as).analyze b bs).1.stats.unique ∧
        ((later w path a as).analyze b bs).1.stats.classified = 0 ∧
        ((later w path a as).analyze b bs).1.stats.failures = 0 ∧
        ((later w path a as).analyze b bs).1.findings = bs.filterMap (fun c =>
          Finding.confirm c (referenceVerdict a (Store.openAt w path) as c.signature)) ∧
        ((later w path a as).analyze b bs).2.disk = ((opened w path).analyze a as).2.disk) ∧
      ∀ catalog catalog' calls judged o s calls' judged' o' s',
        Analysed catalog as (opened w path) calls judged o s →
        Analysed catalog' bs (opened s.disk path) calls' judged' o' s' →
        (∃ made : List (String × Request), s'.calls.Perm (made.map (·.2)) ∧
          ∀ sig q, (sig, q) ∈ made ↔ givenVerdict? (Store.openAt w path) judged sig = none ∧
            ∃ c r, bs.find? (fun c => c.signature == sig) = some c ∧
              catalog'.lookup c.ruleId = .ok r ∧ q = .ofCandidate c r) ∧
        ((∀ c ∈ bs, givenVerdict? (Store.openAt w path) judged c.signature ≠ none) →
          s'.calls = [] ∧ o'.stats.cacheHits = o'.stats.unique ∧ o'.stats.classified = 0 ∧
          o'.stats.failures = 0 ∧
          o'.findings = bs.filterMap (fun c => Finding.confirm c
            ((givenVerdict? (Store.openAt w path) judged c.signature).getD Verdict.analysisError)) ∧
          s'.disk = s.disk) := by
  obtain ⟨calls, ha, -⟩ := analysed_analyze a as (opened w path)
  obtain ⟨calls', hb, -⟩ := analysed_analyze b bs (later w path a as)
  have hgiven : ∀ sig, givenVerdict? (Store.openAt w path)
      ((misses (opened w path).store as).map fun p => (p.1, a.outcome p.2)) sig =
        keptVerdict? a (Store.openAt w path) as sig := givenVerdict?_outcomes a _ as
  refine ⟨⟨asked b (misses (later w path a as).store bs), ?_, fun sig q => ?_⟩, fun hall => ?_, ?_⟩
  · rw [calls_analyze, asked_map_snd]
    rfl
  · rw [← hgiven, ← get?_openAt_of_analysed h ha]
    exact mem_asked_misses
  · obtain ⟨hcalls, hhits, hclassified, hfailures, hfindings, hdisk⟩ :=
      served_of_given h ha hb fun c hc => by rw [hgiven]; exact hall c hc
    refine ⟨hcalls, hhits, hclassified, hfailures, hfindings.trans ?_, hdisk⟩
    exact List.filterMap_congr fun c _ => by rw [hgiven, referenceVerdict_eq_getD]
  · intro catalog catalog' calls judged o s calls' judged' o' s' ha hb
    exact ⟨exists_calls_again h ha hb, served_of_given h ha hb⟩

/-- An analyzer whose classifier always fails. -/
def failingAnalyzer : Analyzer := ⟨fun _ => .error (.request "down"), sampleAnalyzer.catalog⟩

/-- The same text for the same rule, in another file. -/
def movedCandidate : Candidate := { sampleCandidate with file := "b.js", line := 7 }

theorem opened_tornSite_store :
    (opened Store.tornSite "log").store = ⟨some "log", [], none, true, 0⟩ := by
  rw [opened, Store.openAt, Store.readText_tornSite]
  rfl

theorem entries_openAt_tornSite : (Store.openAt Store.tornSite "log").entries = [] :=
  congrArg Store.entries opened_tornSite_store

theorem keptVerdict?_sampleCandidate :
    keptVerdict? sampleAnalyzer (Store.openAt Store.tornSite "log") [sampleCandidate]
      sampleCandidate.signature = some ⟨true, .high, "tainted", ""⟩ := by
  have hfirst : [sampleCandidate].find? (fun c => c.signature == sampleCandidate.signature) =
      some sampleCandidate := List.find?_cons_of_pos (beq_self_eq_true _)
  rw [keptVerdict?, Store.get?, entries_openAt_tornSite, hfirst]
  rfl

/-- A candidate in another file gets the verdict of the first analysis, though the classifier of the
second one always fails. -/
theorem rerun_from_log_failing :
    Store.LogSite Store.tornSite "log" ∧
      (∀ c ∈ [movedCandidate, sampleCandidate], keptVerdict? sampleAnalyzer
        (Store.openAt Store.tornSite "log") [sampleCandidate] c.signature ≠ none) ∧
      ((later Store.tornSite "log" sampleAnalyzer [sampleCandidate]).analyze failingAnalyzer
        [movedCandidate, sampleCandidate]).2.calls = [] ∧
      ((later Store.tornSite "log" sampleAnalyzer [sampleCandidate]).analyze failingAnalyzer
        [movedCandidate, sampleCandidate]).1.findings.map (·.candidate) =
          [movedCandidate, sampleCandidate] := by
  have hall : ∀ c ∈ [movedCandidate, sampleCandidate], keptVerdict? sampleAnalyzer
      (Store.openAt Store.tornSite "log") [sampleCandidate] c.signature =
        some ⟨true, .high, "tainted", ""⟩ := by
    intro c hc
    rcases List.mem_pair.mp hc with rfl | rfl
    · exact keptVerdict?_sampleCandidate
    · exact keptVerdict?_sampleCandidate
  have hne : ∀ c ∈ [movedCandidate, sampleCandidate], keptVerdict? sampleAnalyzer
      (Store.openAt Store.tornSite "log") [sampleCandidate] c.signature ≠ none := by
    intro c hc
    rw [hall c hc]
    simp
  obtain ⟨-, hrerun, -⟩ := rerun_from_log Store.logSite_tornSite sampleAnalyzer failingAnalyzer
    [sampleCandidate] [movedCandidate, sampleCandidate]
  obtain ⟨hcalls, -, -, -, hfindings, -⟩ := hrerun hne
  refine ⟨Store.logSite_tornSite, hne, hcalls, ?_⟩
  have hconfirm : ∀ c ∈ [movedCandidate, sampleCandidate], Finding.confirm c
      (referenceVerdict sampleAnalyzer (Store.openAt Store.tornSite "log") [sampleCandidate]
        c.signature) = Finding.confirm c ⟨true, .high, "tainted", ""⟩ := by
    intro c hc
    rw [referenceVerdict_of_keptVerdict? (hall c hc)]
  rw [hfindings, List.filterMap_congr hconfirm]
  rfl

end Session

end SinkAudit

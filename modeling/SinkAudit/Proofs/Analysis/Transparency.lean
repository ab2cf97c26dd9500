import SinkAudit.Proofs.Analysis.Origin

/-!
# The store does not show

A store saves requests, and nothing else can be seen of it: if a classifier only looks at the rule and at
the code, then calls on an analyzer with a store are answered as if it had none.

The verdict that a store has for a signature was given on some candidate with that signature, earlier in
the run.  If candidates with one signature have one rule and one text, then the classifier would say the
same now, on any of them.  So every call is answered by what the classifier says about its candidates, one
by one, and that is also what an analyzer without a store answers.

* `Analyzer.LooksAtCode`: the classifier does not look at files and lines;
  `Analyzer.LooksAtCode.outcome_eq`: then the rule and the text of a candidate decide the outcome.
* `Call`, `Call.apply`, `serve`: what is asked of an analyzer, and answering calls in turn.
* `Call.answer`: the answer without any state.  `Session.reply_eq_answer`: a call is answered by it, if
  what the store has is what the classifier would say.
* `Session.serve_enabled`, `Session.serve_disabled`: so are all calls of a run, with a store and without.
-/

namespace SinkAudit

namespace Analyzer

/-- The verdict on a candidate when there is nothing to look up. -/
def verdict (a : Analyzer) (c : Candidate) : Verdict := (a.outcome c).getD Verdict.analysisError

/-- The classifier looks at the rule and the code of a request, and not at where the code is. -/
def LooksAtCode (a : Analyzer) : Prop :=
  ∀ q q' : Request, q.vulnName = q'.vulnName → q.description = q'.description →
    q.snippet = q'.snippet → (a.classifier q).toOption = (a.classifier q').toOption

/-- Then the rule and the text of a candidate decide the outcome of asking about it. -/
theorem LooksAtCode.outcome_eq {a : Analyzer} (h : a.LooksAtCode) {c d : Candidate}
    (hrule : c.ruleId = d.ruleId) (hsnippet : c.snippet = d.snippet) : a.outcome c = a.outcome d := by
  rw [outcome, outcome, request, request, hrule]
  cases a.catalog.lookup d.ruleId with
  | error e => rfl
  | ok r => exact h (.ofCandidate c r) (.ofCandidate d r) rfl rfl hsnippet

end Analyzer

/-! ## Calls -/

/-- What is asked of an analyzer and its store. -/
inductive Call where
  | analyze (cs : List Candidate)
  | single (c : Candidate)
  | flush
  | reopen

/-- What can be seen of a call: the findings of an analysis, or a verdict. -/
inductive Reply where
  | findings (fs : List Finding)
  | verdict (v : Verdict)
  | done

namespace Call

/-- The candidates of a call. -/
def candidates : Call → List Candidate
  | analyze cs => cs
  | single c => [c]
  | flush => []
  | reopen => []

/-- A call, with the store as it is configured. -/
def apply (a : Analyzer) (config : CacheConfig) : Call → Session → Reply × Session
  | analyze cs, s => (.findings (s.analyze a cs).1.findings, (s.analyze a cs).2)
  | single c, s => (.verdict (s.analyzeOne a c).1, (s.analyzeOne a c).2)
  | flush, s => (.done, s.settle)
  | reopen, s => (.done, { s with store := .ofConfig s.disk config })

/-- The answer to a call, candidate by candidate. -/
def answer (a : Analyzer) : Call → Reply
  | analyze cs => .findings (cs.filterMap fun c => Finding.confirm c (a.verdict c))
  | single c => .verdict (a.verdict c)
  | flush => .done
  | reopen => .done

end Call

/-- Calls in turn, with their replies. -/
def serve (a : Analyzer) (config : CacheConfig) : List Call → Session → List Reply × Session
  | [], s => ([], s)
  | k :: ks, s =>
    ((k.apply a config s).1 :: (serve a config ks (k.apply a config s).2).1,
      (serve a config ks (k.apply a config s).2).2)

namespace Session

/-- The session in which a run starts. -/
def configured (w : Workspace) (config : CacheConfig) : Session := ⟨.ofConfig w config, w, []⟩

/-! ## Answers -/

/-- The signatures of candidates tell their rules and their texts apart. -/
def Distinct (all : List Candidate) : Prop :=
  ∀ c ∈ all, ∀ d ∈ all, c.signature = d.signature → c.ruleId = d.ruleId ∧ c.snippet = d.snippet

instance (all : List Candidate) : Decidable (Distinct all) :=
  inferInstanceAs (Decidable (∀ c ∈ all, ∀ d ∈ all, c.signature = d.signature →
    c.ruleId = d.ruleId ∧ c.snippet = d.snippet))

/-- A verdict that was given on one of the candidates with the signature. -/
def Given (a : Analyzer) (all : List Candidate) (sig : String) (v : Verdict) : Prop :=
  ∃ d ∈ all, d.signature = sig ∧ a.outcome d = some v

section Answers

variable {a : Analyzer} {all : List Candidate} {s : Session}

/-- What has been given for the signature of a candidate would be given on the candidate. -/
theorem outcome_of_given (ha : a.LooksAtCode) (hall : Distinct all) {c : Candidate} (hc : c ∈ all)
    {v : Verdict} (h : Given a all c.signature v) : a.outcome c = some v := by
  obtain ⟨d, hd, hsig, hv⟩ := h
  obtain ⟨hrule, hsnippet⟩ := hall c hc d hd hsig.symm
  rw [ha.outcome_eq hrule hsnippet, hv]

/-- Candidates are judged as if there were nothing to look up. -/
theorem referenceVerdict_eq_verdict (ha : a.LooksAtCode) (hall : Distinct all)
    (hstore : ∀ e ∈ s.store.entries, Given a all e.1 e.2) {cs : List Candidate}
    (hcs : ∀ c ∈ cs, c ∈ all) {c : Candidate} (hc : c ∈ cs) :
    referenceVerdict a s.store cs c.signature = a.verdict c := by
  rw [referenceVerdict, Analyzer.verdict]
  cases hget : s.store.get? c.signature with
  | some v =>
    have hgiven := hstore (c.signature, v) (Entries.mem_of_get?_eq_some hget)
    rw [outcome_of_given ha hall (hcs c hc) hgiven, Option.getD_some]
  | none =>
    obtain ⟨d, hd⟩ := exists_first hc
    obtain ⟨hmem, hsig⟩ := first_spec hd
    obtain ⟨hrule, hsnippet⟩ := hall d (hcs d hmem) c (hcs c hc) hsig
    rw [hd]
    dsimp only
    rw [ha.outcome_eq hrule hsnippet]

/-- A call is answered candidate by candidate, if the store has nothing but what was given. -/
theorem reply_eq_answer (ha : a.LooksAtCode) (hall : Distinct all) (config : CacheConfig) (k : Call)
    (hk : ∀ c ∈ k.candidates, c ∈ all) (hstore : ∀ e ∈ s.store.entries, Given a all e.1 e.2) :
    (k.apply a config s).1 = k.answer a := by
  cases k with
  | analyze cs =>
    have hcs : ∀ c ∈ cs, c ∈ all := hk
    have hfindings : (s.analyze a cs).1.findings =
        cs.filterMap fun c => Finding.confirm c (a.verdict c) := by
      rw [findings_analyze]
      refine List.filterMap_congr fun c hc => ?_
      rw [← referenceVerdict_eq_getD, referenceVerdict_eq_verdict ha hall hstore hcs hc]
    rw [Call.apply, Call.answer, hfindings]
  | single c =>
    rw [Call.apply, Call.answer, analyzeOne]
    cases hget : s.store.get? c.signature with
    | some v =>
      have hgiven := hstore (c.signature, v) (Entries.mem_of_get?_eq_some hget)
      dsimp only
      rw [Analyzer.verdict, outcome_of_given ha hall (hk c List.mem_cons_self) hgiven,
        Option.getD_some]
    | none =>
      dsimp only
      rw [judge_eq, Analyzer.verdict]
  | flush => rfl
  | reopen => rfl

end Answers

/-! ## Runs -/

section Runs

variable {a : Analyzer} {all : List Candidate}

/-- A call is a step of a run, and the verdicts that it brings were given. -/
theorem exists_step_apply {config : CacheConfig} (hon : config.enabled = true) (k : Call)
    (hk : ∀ c ∈ k.candidates, c ∈ all) (s : Session) :
    ∃ news, Step config.path s news (k.apply a config s).2 ∧
      ∀ c v, (c, some v) ∈ news → Given a all c.signature v := by
  cases k with
  | analyze cs =>
    refine ⟨_, step_analyze config.path s a cs, fun c v hv => ?_⟩
    obtain ⟨⟨sig, d⟩, hmem, hpair⟩ := List.mem_map.mp hv
    obtain ⟨rfl, hout⟩ := Prod.mk.inj hpair
    obtain ⟨-, hd⟩ := mem_misses.mp hmem
    exact ⟨d, hk d (first_spec hd).1, rfl, hout⟩
  | single c =>
    refine ⟨_, step_analyzeOne config.path s a c, fun d v hv => ?_⟩
    split at hv
    · obtain ⟨rfl, hout⟩ := Prod.mk.inj (List.mem_singleton.mp hv)
      exact ⟨d, hk d List.mem_cons_self, rfl, hout.symm⟩
    · exact absurd hv (by simp)
  | flush => exact ⟨[], .flush .written, fun c v hv => absurd hv (by simp)⟩
  | reopen =>
    refine ⟨[], ?_, fun c v hv => absurd hv (by simp)⟩
    rw [Call.apply, Store.ofConfig, if_pos hon]
    exact .reopen

/-- With a store, every call is answered candidate by candidate. -/
theorem serve_enabled (ha : a.LooksAtCode) (hall : Distinct all) {config : CacheConfig}
    (hon : config.enabled = true) :
    ∀ (ks : List Call) {s : Session}, (∀ k ∈ ks, ∀ c ∈ k.candidates, c ∈ all) →
      Store.Sourced config.path (Given a all) s.store s.disk →
      (serve a config ks s).1 = ks.map (Call.answer a)
  | [], _, _, _ => rfl
  | k :: ks, s, hks, h => by
    have hk := hks k List.mem_cons_self
    obtain ⟨news, hstep, hnews⟩ := exists_step_apply hon k hk s
    rw [serve, List.map_cons, reply_eq_answer ha hall config k hk h.memory,
      serve_enabled ha hall hon ks (fun k hk => hks k (List.mem_cons_of_mem _ hk))
        (sourced_step h hstep hnews)]

theorem settle_disabled {s : Session} (hs : s.store = Store.disabled) :
    s.settle.store = Store.disabled ∧ s.settle.disk = s.disk := by
  rw [settle, hs]
  exact ⟨rfl, rfl⟩

/-- An analyzer without a store leaves its workspace as it is, and goes on without one. -/
theorem apply_disabled {config : CacheConfig} (hoff : config.enabled = false) (k : Call)
    {s : Session} (hs : s.store = Store.disabled) :
    (k.apply a config s).2.store = Store.disabled ∧ (k.apply a config s).2.disk = s.disk := by
  have hput : s.store.isEnabled = false := by rw [hs]; rfl
  cases k with
  | analyze cs =>
    have hjudged := judgeAll_putAll a (misses s.store cs) s
    rw [Store.putAll_of_not_isEnabled hput] at hjudged
    obtain ⟨hstore, hdisk⟩ := Prod.mk.inj hjudged
    obtain ⟨hstore', hdisk'⟩ := settle_disabled (hstore.trans hs)
    exact ⟨hstore', hdisk'.trans hdisk⟩
  | single c =>
    have hget : s.store.get? c.signature = none := by rw [hs]; rfl
    rw [Call.apply, analyzeOne, hget]
    dsimp only
    rw [judge_eq]
    cases a.outcome c with
    | none => exact ⟨hs, rfl⟩
    | some v =>
      have hsame : (s.store.put s.disk c.signature v).2 = (s.store, s.disk) :=
        Store.put_of_not_isEnabled hput s.disk c.signature v
      exact ⟨(congrArg Prod.fst hsame).trans hs, congrArg Prod.snd hsame⟩
  | flush => exact settle_disabled hs
  | reopen =>
    rw [Call.apply, Store.ofConfig, hoff]
    exact ⟨rfl, rfl⟩

/-- Without a store, every call is answered candidate by candidate, and nothing is written. -/
theorem serve_disabled (ha : a.LooksAtCode) (hall : Distinct all) {config : CacheConfig}
    (hoff : config.enabled = false) :
    ∀ (ks : List Call) {s : Session}, (∀ k ∈ ks, ∀ c ∈ k.candidates, c ∈ all) →
      s.store = Store.disabled →
      (serve a config ks s).1 = ks.map (Call.answer a) ∧ (serve a config ks s).2.disk = s.disk
  | [], _, _, _ => ⟨rfl, rfl⟩
  | k :: ks, s, hks, hs => by
    have hk := hks k List.mem_cons_self
    have hstore : ∀ e ∈ s.store.entries, Given a all e.1 e.2 := by
      rw [hs]
      exact fun e he => absurd he (by simp [Store.disabled])
    obtain ⟨hstore', hdisk⟩ := apply_disabled (a := a) hoff k hs
    obtain ⟨hreplies, hdisk'⟩ := serve_disabled ha hall hoff ks
      (fun k hk => hks k (List.mem_cons_of_mem _ hk)) hstore'
    refine ⟨?_, hdisk'.trans hdisk⟩
    rw [serve, List.map_cons, reply_eq_answer ha hall config k hk hstore, hreplies]

end Runs

/-- **Transparency.**  Let a classifier look at rules and code only, and let the signatures of a run tell
its rules and texts apart.  Then calls on an analyzer whose store starts out empty, with the log opened
anew in between, are answered as the same calls without a store are, in any workspace; and without a
store nothing in the workspace changes. -/
theorem store_transparent {w : Workspace} {on off : CacheConfig} (hon : on.enabled = true)
    (hoff : off.enabled = false) (hplace : Store.LogPlace w on.path ∨ Store.Shut w on.path)
    (hempty : (Store.openAt w on.path).entries = []) {a : Analyzer} (ha : a.LooksAtCode)
    (ks : List Call) (hall : Distinct (ks.flatMap Call.candidates)) (w' : Workspace) :
    (serve a on ks (configured w on)).1 = (serve a off ks (configured w' off)).1 ∧
      (serve a off ks (configured w' off)).2.disk = w' := by
  have hks : ∀ k ∈ ks, ∀ c ∈ k.candidates, c ∈ ks.flatMap Call.candidates := fun k hk c hc =>
    List.mem_flatMap.mpr ⟨k, hk, hc⟩
  have hstart : Store.Sourced on.path (Given a (ks.flatMap Call.candidates))
      (configured w on).store (configured w on).disk := by
    rw [configured, Store.ofConfig, if_pos hon]
    exact Store.sourced_openAt hplace fun e he => absurd he (by simp [hempty])
  have hdisabled : (configured w' off).store = Store.disabled := by
    rw [configured, Store.ofConfig, hoff]
    rfl
  obtain ⟨hreplies, hdisk⟩ := serve_disabled ha hall hoff ks hks hdisabled
  exact ⟨(serve_enabled ha hall hon ks hks hstart).trans hreplies.symm, hdisk⟩

/-- An analyzer that confirms one text, and fails on all others. -/
def codeAnalyzer : Analyzer :=
  ⟨fun q => if q.snippet = sampleCandidate.snippet then .ok ⟨true, .high, "tainted", ""⟩
    else .error (.request "down"), sampleAnalyzer.catalog⟩

/-- Two candidates with one signature in different files, one on which classification fails, and one
whose rule is unknown, with the log opened anew in between. -/
def sampleCalls : List Call :=
  [.analyze [sampleCandidate, otherCandidate], .reopen, .single movedCandidate,
    .analyze [otherCandidate, movedCandidate, { sampleCandidate with ruleId := "X" }]]

/-- These calls are answered alike with a store that starts at a torn log and without any. -/
theorem store_transparent_sample :
    codeAnalyzer.LooksAtCode ∧ Distinct (sampleCalls.flatMap Call.candidates) ∧
      (serve codeAnalyzer ⟨true, "log"⟩ sampleCalls (configured Store.tornSite ⟨true, "log"⟩)).1 =
        (serve codeAnalyzer ⟨false, "log"⟩ sampleCalls
          (configured Store.tornSite ⟨false, "log"⟩)).1 ∧
      (serve codeAnalyzer ⟨false, "log"⟩ sampleCalls
        (configured Store.tornSite ⟨false, "log"⟩)).2.disk = Store.tornSite := by
  have ha : codeAnalyzer.LooksAtCode := by
    intro q q' hname hdescription hsnippet
    rw [codeAnalyzer]
    dsimp only
    rw [hsnippet]
  have hall : Distinct (sampleCalls.flatMap Call.candidates) := by decide +kernel
  have hplace : Store.LogPlace Store.tornSite "log" ∨ Store.Shut Store.tornSite "log" :=
    Or.inl Store.logSite_tornSite.logPlace
  have hserve := @store_transparent Store.tornSite ⟨true, "log"⟩ ⟨false, "log"⟩ rfl rfl hplace
    entries_openAt_tornSite codeAnalyzer ha sampleCalls hall Store.tornSite
  exact ⟨ha, hall, hserve⟩

end Session

end SinkAudit

import SinkAudit.Proofs.Analysis.Rerun
import SinkAudit.Proofs.Store.Provenance

/-!
# Where verdicts come from

A verdict gets into the store, and from there into the log, only if a classifier has given it.  A
candidate on which classification fails leaves nothing behind, so that it is asked about again.

A run is a list of analyses and single judgements, with the log opened anew in between.  Each
classification in it has an outcome of its own, whatever analyzer answers it, and at each put, and each
time when the log is to be written anew, the log may be out of reach for the moment.

* `Session.Judged`: one classification; `Session.Step`, `Session.Run`: one step, and a run with the
  outcomes of all its classifications.
* `Session.step_analyze`, `Session.step_analyzeOne`: what the analyzer does is such a step.
* `Session.sourced_step`, `Session.sourced_run`: a step and a run keep `Store.Sourced`.
* `Session.used_run`: what a run does with its store is a use of it.
* `Session.Source`: where a verdict may come from; `Session.verdicts_have_source`: what is in memory and
  in the log after a run.
-/

namespace SinkAudit

/-- What is among the entries has a verdict. -/
theorem Entries.get?_ne_none_of_mem {sig : String} {v : Verdict} :
    ∀ {es : Entries}, (sig, v) ∈ es → es.get? sig ≠ none
  | (k, u) :: es, h => by
    rw [get?_cons]
    split
    · simp
    · rename_i hne
      rcases List.mem_cons.mp h with heq | h
      · exact absurd (Prod.mk.inj heq).1.symm hne
      · exact get?_ne_none_of_mem h

namespace Session

/-! ## Runs -/

/-- One classification, with its outcome.  A verdict is kept in the store, which appends it to the log
or, if the log cannot be opened for the moment, has it in memory only. -/
inductive Judged (sig : String) (c : Candidate) (s : Session) : Option Verdict → Session → Prop
  | kept (a : Analyzer) : Judged sig c s (s.judge a sig c).1 (s.judge a sig c).2
  | blocked (a : Analyzer) (w : Workspace) (h : ∀ v, ∃ e, (s.store.put w sig v).1 = .error e) :
    Judged sig c s (judge a sig c { s with disk := w }).1
      { (judge a sig c { s with disk := w }).2 with disk := s.disk }

/-- Classifications in turn, with their outcomes. -/
inductive JudgedAll : List (String × Candidate) → Session → List (Candidate × Option Verdict) →
    Session → Prop
  | nil (s : Session) : JudgedAll [] s [] s
  | cons {sig : String} {c : Candidate} {ms : List (String × Candidate)} {s s₁ s₂ : Session}
    {o : Option Verdict} {news : List (Candidate × Option Verdict)} (first : Judged sig c s o s₁)
    (rest : JudgedAll ms s₁ news s₂) : JudgedAll ((sig, c) :: ms) s ((c, o) :: news) s₂

/-- The end of an analysis: the log is written anew if needed, unless that fails for the moment. -/
inductive Settled (s : Session) : Session → Prop
  | written : Settled s s.settle
  | blocked (w : Workspace) {e : Error} (h : (s.store.flush w).1 = .error e) :
    Settled s { s with store := (s.store.flush w).2.1 }

/-- One step of a run, with the outcomes of its classifications.  An analysis may ask in any order. -/
inductive Step (path : String) (s : Session) : List (Candidate × Option Verdict) → Session → Prop
  | analyze (cs : List Candidate) {ms : List (String × Candidate)} {s₁ s₂ : Session}
    {news : List (Candidate × Option Verdict)} (order : ms.Perm (misses s.store cs))
    (judged : JudgedAll ms s news s₁) (settled : Settled s₁ s₂) : Step path s news s₂
  | found (c : Candidate) (v : Verdict) (h : s.store.get? c.signature = some v) : Step path s [] s
  | single (c : Candidate) {o : Option Verdict} {s' : Session}
    (missing : s.store.get? c.signature = none) (judged : Judged c.signature c s o s') :
    Step path s [(c, o)] s'
  | flush {s' : Session} (settled : Settled s s') : Step path s [] s'
  | reopen : Step path s [] { s with store := Store.openAt s.disk path }

/-- A run, with the outcomes of all its classifications. -/
inductive Run (path : String) (start : Session) :
    List (Candidate × Option Verdict) → Session → Prop
  | nil : Run path start [] start
  | snoc {before news : List (Candidate × Option Verdict)} {s s' : Session}
    (run : Run path start before s) (step : Step path s news s') :
    Run path start (before ++ news) s'

/-! ## The analyzer makes such runs -/

theorem judgedAll_judgeAll (a : Analyzer) :
    ∀ (ms : List (String × Candidate)) (s : Session),
      JudgedAll ms s (ms.map fun p => (p.2, a.outcome p.2)) (judgeAll a ms s).2
  | [], s => .nil s
  | (sig, c) :: ms, s => by
    have hfirst : Judged sig c s (a.outcome c) ((s.ask a c).keep sig (a.outcome c)) := by
      have hkept : Judged sig c s (s.judge a sig c).1 (s.judge a sig c).2 := .kept a
      rwa [judge_eq] at hkept
    rw [judgeAll_snd]
    exact .cons hfirst (judgedAll_judgeAll a ms _)

theorem step_analyze (path : String) (s : Session) (a : Analyzer) (cs : List Candidate) :
    Step path s ((misses s.store cs).map fun p => (p.2, a.outcome p.2)) (s.analyze a cs).2 :=
  .analyze cs (List.Perm.refl _) (judgedAll_judgeAll a _ s) .written

theorem step_analyzeOne (path : String) (s : Session) (a : Analyzer) (c : Candidate) :
    Step path s (if s.store.get? c.signature = none then [(c, a.outcome c)] else [])
      (s.analyzeOne a c).2 := by
  rw [analyzeOne]
  cases hget : s.store.get? c.signature with
  | some v => exact .found c v hget
  | none =>
    have hkept : Judged c.signature c s (s.judge a c.signature c).1 (s.judge a c.signature c).2 :=
      .kept a
    rw [judge_eq] at hkept ⊢
    exact .single c hget hkept

/-! ## A run uses the store -/

section Uses

variable {path : String} {w : Workspace} {s s' : Session}

theorem used_judged {sig : String} {c : Candidate} {o : Option Verdict}
    (h : Store.Used path w s.store s.disk) (hjudged : Judged sig c s o s') :
    Store.Used path w s'.store s'.disk := by
  cases hjudged with
  | kept a =>
    rw [judge_eq]
    cases a.outcome c with
    | none => exact h
    | some v => exact h.put sig v .done
  | blocked a w' hblocked =>
    rw [judge_eq]
    cases a.outcome c with
    | none => exact h
    | some v =>
      obtain ⟨e, he⟩ := hblocked v
      exact h.blocked he

theorem used_judgedAll {ms : List (String × Candidate)} {news : List (Candidate × Option Verdict)}
    (hjudged : JudgedAll ms s news s') (h : Store.Used path w s.store s.disk) :
    Store.Used path w s'.store s'.disk := by
  induction hjudged with
  | nil s => exact h
  | cons first rest ih => exact ih (used_judged h first)

theorem used_settled (h : Store.Used path w s.store s.disk) (hsettled : Settled s s') :
    Store.Used path w s'.store s'.disk := by
  cases hsettled with
  | written => exact h.flush .done
  | blocked w' hblocked =>
    dsimp only
    rw [Store.store_of_flush_error hblocked]
    exact h

theorem used_step {news : List (Candidate × Option Verdict)} (h : Store.Used path w s.store s.disk)
    (hstep : Step path s news s') : Store.Used path w s'.store s'.disk := by
  cases hstep with
  | analyze cs order judged settled => exact used_settled (used_judgedAll judged h) settled
  | found c v hget => exact h
  | single c missing judged => exact used_judged h judged
  | flush settled => exact used_settled h settled
  | reopen => exact h.reopened

/-- What a run does to its store is a use of the store. -/
theorem used_run {hist : List (Candidate × Option Verdict)} (hrun : Run path (opened w path) hist s) :
    Store.Used path w s.store s.disk := by
  induction hrun with
  | nil => exact .opened
  | snoc _ step ih => exact used_step ih step

end Uses

/-! ## What a run keeps -/

section Kept

variable {path : String} {source : String → Verdict → Prop} {s s' : Session}

theorem sourced_judged {sig : String} {c : Candidate} {o : Option Verdict}
    (h : Store.Sourced path source s.store s.disk) (hjudged : Judged sig c s o s')
    (ho : ∀ v, o = some v → source sig v) : Store.Sourced path source s'.store s'.disk := by
  cases hjudged with
  | kept a =>
    rw [judge_eq] at ho ⊢
    cases hv : a.outcome c with
    | none => exact h
    | some v => exact h.put (ho v hv)
  | blocked a w hblocked =>
    rw [judge_eq] at ho ⊢
    cases hv : a.outcome c with
    | none => exact h
    | some v =>
      obtain ⟨e, he⟩ := hblocked v
      exact h.put_blocked (ho v hv) he

theorem sourced_judgedAll {ms : List (String × Candidate)}
    {news : List (Candidate × Option Verdict)} (hjudged : JudgedAll ms s news s')
    (hsigned : ∀ p ∈ ms, p.2.signature = p.1)
    (hnews : ∀ c v, (c, some v) ∈ news → source c.signature v)
    (h : Store.Sourced path source s.store s.disk) :
    Store.Sourced path source s'.store s'.disk := by
  induction hjudged with
  | nil s => exact h
  | @cons sig c ms s s₁ s₂ o news first rest ih =>
    have hsig : c.signature = sig := hsigned (sig, c) List.mem_cons_self
    refine ih (fun p hp => hsigned p (List.mem_cons_of_mem _ hp))
      (fun c v hv => hnews c v (List.mem_cons_of_mem _ hv)) (sourced_judged h first fun v hv => ?_)
    rw [← hsig]
    exact hnews c v (hv ▸ List.mem_cons_self)

theorem sourced_settled (h : Store.Sourced path source s.store s.disk) (hsettled : Settled s s') :
    Store.Sourced path source s'.store s'.disk := by
  cases hsettled with
  | written => exact h.flush
  | blocked w hblocked =>
    dsimp only
    rw [Store.store_of_flush_error hblocked]
    exact h

/-- A step keeps that everything has a source, if the verdicts it brings have one. -/
theorem sourced_step {news : List (Candidate × Option Verdict)}
    (h : Store.Sourced path source s.store s.disk) (hstep : Step path s news s')
    (hnews : ∀ c v, (c, some v) ∈ news → source c.signature v) :
    Store.Sourced path source s'.store s'.disk := by
  cases hstep with
  | analyze cs order judged settled =>
    refine sourced_settled (sourced_judgedAll judged (fun p hp => ?_) hnews h) settled
    obtain ⟨-, hc⟩ := mem_misses.mp (order.mem_iff.mp hp)
    exact (first_spec hc).2
  | found c v hget => exact h
  | single c missing judged =>
    exact sourced_judged h judged fun v hv => hnews c v (hv ▸ List.mem_cons_self)
  | flush settled => exact sourced_settled h settled
  | reopen => exact h.reopen

theorem sourced_run {start : Session} {hist : List (Candidate × Option Verdict)}
    (h : Store.Sourced path source start.store start.disk) (hrun : Run path start hist s)
    (hhist : ∀ c v, (c, some v) ∈ hist → source c.signature v) :
    Store.Sourced path source s.store s.disk := by
  induction hrun with
  | nil => exact h
  | snoc run step ih =>
    exact sourced_step (ih fun c v hv => hhist c v (List.mem_append_left _ hv)) step
      fun c v hv => hhist c v (List.mem_append_right _ hv)

end Kept

/-! ## Asking again -/

section Asking

variable {a : Analyzer} {s : Session} {c : Candidate} {q : Request}

theorem calls_analyzeOne (hnone : s.store.get? c.signature = none) (hq : a.request c = .ok q) :
    (s.analyzeOne a c).2.calls = s.calls ++ [q] := by
  rw [analyzeOne, hnone]
  dsimp only
  rw [judge_eq, calls_keep, ask, Analyzer.asks, hq]
  rfl

theorem exists_calls_analyze {cs : List Candidate} {sig : String} (hnone : s.store.get? sig = none)
    (hfirst : cs.find? (fun c => c.signature == sig) = some c) (hq : a.request c = .ok q) :
    ∃ made, (s.analyze a cs).2.calls = s.calls ++ made ∧ q ∈ made := by
  refine ⟨_, calls_analyze a cs s, ?_⟩
  exact List.mem_flatMap.mpr
    ⟨(sig, c), mem_misses.mpr ⟨hnone, hfirst⟩, Analyzer.mem_asks.mpr hq⟩

end Asking

/-! ## Sources -/

/-- Where a verdict for a signature may come from: it was there in the beginning, or a classifier gave
it on a candidate with that signature. -/
def Source (start : Entries) (hist : List (Candidate × Option Verdict)) (sig : String)
    (v : Verdict) : Prop :=
  (sig, v) ∈ start ∨ ∃ c, (c, some v) ∈ hist ∧ c.signature = sig

/-- Failed classifications are no source. -/
theorem not_source {start : Entries} {hist : List (Candidate × Option Verdict)} {sig : String}
    (hstart : start.get? sig = none)
    (hfailed : ∀ c o, (c, o) ∈ hist → c.signature = sig → o = none) (v : Verdict) :
    ¬Source start hist sig v := by
  rintro (hmem | ⟨c, hc, hsig⟩)
  · exact Entries.get?_ne_none_of_mem hmem hstart
  · exact absurd (hfailed c _ hc hsig) (by simp)

theorem get?_eq_none_of_not_source {source : String → Verdict → Prop} {es : Entries} {sig : String}
    (hes : ∀ e ∈ es, source e.1 e.2) (hsig : ∀ v, ¬source sig v) : es.get? sig = none := by
  refine Option.eq_none_iff_forall_ne_some.mpr fun v hv => ?_
  exact hsig v (hes (sig, v) (Entries.mem_of_get?_eq_some hv))

/-- **Verdicts have a source.**  After any run from a store that was opened, every entry in memory, and
every entry that the log gives when it is opened again, was there in the beginning or is the verdict of
a classifier on a candidate with that signature.  A signature that was not there, and on which no
classification has succeeded, is in neither; so the next step that meets it asks about it. -/
theorem verdicts_have_source {w : Workspace} {path : String}
    (h : Store.LogPlace w path ∨ Store.Shut w path) {hist : List (Candidate × Option Verdict)}
    {s : Session} (hrun : Run path (opened w path) hist s) :
    (∀ sig v, (sig, v) ∈ s.store.entries ∨ (sig, v) ∈ (Store.openAt s.disk path).entries →
      Source (Store.openAt w path).entries hist sig v) ∧
      ∀ sig, (Store.openAt w path).get? sig = none →
        (∀ c o, (c, o) ∈ hist → c.signature = sig → o = none) →
        s.store.get? sig = none ∧ (Store.openAt s.disk path).get? sig = none ∧
          ∀ (a : Analyzer) (c : Candidate) (q : Request), c.signature = sig → a.request c = .ok q →
            (s.analyzeOne a c).2.calls = s.calls ++ [q] ∧
            ∀ cs : List Candidate, cs.find? (fun c => c.signature == sig) = some c →
              ∃ made, (s.analyze a cs).2.calls = s.calls ++ made ∧ q ∈ made := by
  have hstart : Store.Sourced path (Source (Store.openAt w path).entries hist)
      (opened w path).store (opened w path).disk :=
    Store.sourced_openAt h fun e he => Or.inl he
  have hsourced := sourced_run hstart hrun fun c v hv => Or.inr ⟨c, hv, rfl⟩
  refine ⟨fun sig v hmem => ?_, fun sig hget hfailed => ?_⟩
  · rcases hmem with hmem | hmem
    · exact hsourced.memory (sig, v) hmem
    · exact hsourced.openAt_entries (sig, v) hmem
  · have hnone := not_source hget hfailed
    have hmemory := get?_eq_none_of_not_source hsourced.memory hnone
    refine ⟨hmemory, get?_eq_none_of_not_source hsourced.openAt_entries hnone, ?_⟩
    rintro a c q rfl hq
    exact ⟨calls_analyzeOne hmemory hq, fun cs hfirst => exists_calls_analyze hmemory hfirst hq⟩

/-- A working directory in which the log cannot be opened, because a directory has its name. -/
def blockedSite : Workspace := ⟨.dir [("ws", .dir [("log", .dir [])])], #[], ["ws"]⟩

theorem openLog_blockedSite : ∃ e, Store.openLog blockedSite "log" = (.error e, blockedSite) := by
  have hparent : blockedSite.createDirs ((Path.parent? "log").getD "") = (.ok (), blockedSite) :=
    Workspace.createDirs_of_isDir (Or.inl rfl)
  have hfile : (blockedSite.openFile "log").toBool = false := by decide +kernel
  rw [Store.openLog, hparent]
  dsimp only
  cases hopen : blockedSite.openFile "log" with
  | error e => exact ⟨_, rfl⟩
  | ok r =>
    rw [hopen] at hfile
    exact absurd hfile (by simp [Except.toBool])

theorem shut_blockedSite : Store.Shut blockedSite "log" := by
  have hfile : (blockedSite.read "log").toBool = false := by decide +kernel
  obtain ⟨e, he⟩ := openLog_blockedSite
  cases hread : blockedSite.read "log" with
  | error e' => exact Store.shut_of_openLog he hread
  | ok bytes =>
    rw [hread] at hfile
    exact absurd hfile (by simp [Except.toBool])

/-- A store that has nothing open cannot put a verdict there. -/
theorem put_blockedSite {store : Store} (hpath : store.path = some "log")
    (hhandle : store.handle = none) (sig : String) (v : Verdict) :
    ∃ e, (store.put blockedSite sig v).1 = .error e := by
  obtain ⟨e, he⟩ := openLog_blockedSite
  have hwriter : store.writer blockedSite "log" = (.error e, blockedSite) := by
    rw [Store.writer, hhandle]
    exact he
  exact ⟨e, by rw [Store.put_of_writer_error hpath hwriter]⟩

/-- Another text for the same rule. -/
def otherCandidate : Candidate := { sampleCandidate with snippet := "   1 | > g()" }

/-- One classification fails; then another gives a verdict, which cannot be appended to the log. -/
theorem run_blocked : ∃ s, Run "log" (opened Store.tornSite "log")
    [(sampleCandidate, none), (otherCandidate, some ⟨true, .high, "tainted", ""⟩)] s := by
  have hmissing : ∀ sig, (opened Store.tornSite "log").store.get? sig = none := by
    intro sig
    rw [opened_tornSite_store]
    rfl
  have hfirst : Judged sampleCandidate.signature sampleCandidate (opened Store.tornSite "log") none
      (judge failingAnalyzer sampleCandidate.signature sampleCandidate
        (opened Store.tornSite "log")).2 := .kept failingAnalyzer
  have hstore : (judge failingAnalyzer sampleCandidate.signature sampleCandidate
      (opened Store.tornSite "log")).2.store = ⟨some "log", [], none, true, 0⟩ := by
    rw [← opened_tornSite_store]
    rfl
  have hsecond : Judged otherCandidate.signature otherCandidate
      (judge failingAnalyzer sampleCandidate.signature sampleCandidate
        (opened Store.tornSite "log")).2
      (some ⟨true, .high, "tainted", ""⟩) _ := .blocked sampleAnalyzer blockedSite
    (put_blockedSite (by rw [hstore]) (by rw [hstore]) otherCandidate.signature)
  exact ⟨_, .snoc (.snoc .nil (.single sampleCandidate (hmissing _) hfirst))
    (.single otherCandidate (by rw [hstore]; rfl) hsecond)⟩

/-- After that run, the candidate on which classification failed is asked about again.  Where the log
can never be opened, a verdict is in memory, and the log gives nothing. -/
theorem verdicts_have_source_blocked :
    (∃ s, Run "log" (opened Store.tornSite "log")
        [(sampleCandidate, none), (otherCandidate, some ⟨true, .high, "tainted", ""⟩)] s ∧
      (∀ sig v, (sig, v) ∈ s.store.entries → sig = otherCandidate.signature) ∧
      s.store.get? sampleCandidate.signature = none ∧
      ∃ q, (s.analyzeOne sampleAnalyzer sampleCandidate).2.calls = s.calls ++ [q]) ∧
      Store.Shut blockedSite "log" ∧
      ∀ sig v, (sig, v) ∈ ((opened blockedSite "log").analyze sampleAnalyzer
        [sampleCandidate]).2.store.entries → sig = sampleCandidate.signature := by
  refine ⟨?_, shut_blockedSite, fun sig v hmem => ?_⟩
  · obtain ⟨s, hrun⟩ := run_blocked
    obtain ⟨hsource, hfailed⟩ := verdicts_have_source (Or.inl Store.logSite_tornSite.logPlace) hrun
    have hne : otherCandidate.signature ≠ sampleCandidate.signature := by decide +kernel
    have hnone : ∀ c o, (c, o) ∈ [(sampleCandidate, none),
        (otherCandidate, some (⟨true, .high, "tainted", ""⟩ : Verdict))] →
        c.signature = sampleCandidate.signature → o = none := by
      intro c o hmem hsig
      rcases List.mem_pair.mp hmem with heq | heq
      · exact (Prod.mk.inj heq).2
      · rw [(Prod.mk.inj heq).1] at hsig
        exact absurd hsig hne
    obtain ⟨hget, -, hask⟩ :=
      hfailed sampleCandidate.signature (by rw [Store.get?, entries_openAt_tornSite]; rfl) hnone
    refine ⟨s, hrun, fun sig v hmem => ?_, hget, _, (hask sampleAnalyzer sampleCandidate _ rfl rfl).1⟩
    rcases hsource sig v (Or.inl hmem) with hstart | ⟨c, hc, hsig⟩
    · rw [entries_openAt_tornSite] at hstart
      exact absurd hstart (by simp)
    · rcases List.mem_pair.mp hc with heq | heq
      · exact absurd (Prod.mk.inj heq).2 (by simp)
      · rw [← hsig, (Prod.mk.inj heq).1]
  · have hrun : Run "log" (opened blockedSite "log") _ _ :=
      .snoc .nil (step_analyze "log" (opened blockedSite "log") sampleAnalyzer [sampleCandidate])
    obtain ⟨hsource, -⟩ := verdicts_have_source (Or.inr shut_blockedSite) hrun
    rcases hsource sig v (Or.inl hmem) with hstart | ⟨c, hc, hsig⟩
    · rw [shut_blockedSite.openAt_eq] at hstart
      exact absurd hstart (by simp [Store.fresh])
    · obtain ⟨⟨key, d⟩, hmiss, hpair⟩ := List.mem_map.mp hc
      obtain ⟨hd, -⟩ := first_spec (mem_misses.mp hmiss).2
      obtain rfl : d = c := (Prod.mk.inj hpair).1
      rw [← hsig, List.mem_singleton.mp hd]

end Session

end SinkAudit

import Mathlib.Data.List.Basic
import SinkAudit.Proofs.Analysis.Passes
import SinkAudit.Proofs.Store.PutOrder

/-!
# Analyses with any answers

A classifier may remember what it was asked before, and it may be asked in any order; then its answers are no
function of the requests.  But an analysis makes at most one call for each signature, and what it does with
the answers does not depend on where they come from.  So an analysis is described here with answers that are
arbitrary, and with calls and puts in any order.

* `Session.Answered`: the calls for a list of candidates, with their answers, and what comes of them;
  `Session.Answered.exists_signed`: the calls under the signatures that they are made for.
* `Session.givenVerdict?`: the verdict on a signature, from the store or from an answer;
  `Session.findings_conclude`: candidates are confirmed by these verdicts.
* `Session.Analysed`: an analysis, with its calls and answers, and what it leaves;
  `Session.get?_of_analysed`: it leaves the given verdicts in memory.
* `Session.analysed_analyze`: what the analyzer does is such an analysis, in which the classifier answers.
-/

namespace SinkAudit

/-- In a list with distinct keys, what is found under a key is what is in the list under it. -/
theorem find?_key_eq_some_iff {β : Type} {k : String} {b : β} {l : List (String × β)}
    (h : (l.map (·.1)).Nodup) : l.find? (fun p => p.1 == k) = some (k, b) ↔ (k, b) ∈ l := by
  refine ⟨List.mem_of_find?_eq_some, fun hmem => ?_⟩
  have hsome : (l.find? fun p => p.1 == k).isSome = true :=
    List.find?_isSome.mpr ⟨(k, b), hmem, beq_self_eq_true k⟩
  obtain ⟨⟨j, c⟩, hfind⟩ := Option.isSome_iff_exists.mp hsome
  obtain rfl : j = k := by simpa using List.find?_some hfind
  rw [hfind, List.inj_on_of_nodup_map h (List.mem_of_find?_eq_some hfind) hmem rfl]

namespace Session

/-! ## Calls and their answers -/

/-- The calls that are made for signed candidates, with their answers, and the outcomes that come of them.
There is no call for a candidate whose rule is not in the catalog.  Nothing is said about how a call is
answered. -/
inductive Answered (catalog : Catalog) : List (String × Candidate) →
    List (Request × Except ClassifyError Verdict) → List (String × Option Verdict) → Prop
  | nil : Answered catalog [] [] []
  | unknown {sig : String} {c : Candidate} {e : Error} {ms made judged}
    (lookup : catalog.lookup c.ruleId = .error e) (rest : Answered catalog ms made judged) :
    Answered catalog ((sig, c) :: ms) made ((sig, none) :: judged)
  | asked {sig : String} {c : Candidate} {r : Rule} {ms made judged}
    (lookup : catalog.lookup c.ruleId = .ok r) (answer : Except ClassifyError Verdict)
    (rest : Answered catalog ms made judged) :
    Answered catalog ((sig, c) :: ms) ((.ofCandidate c r, answer) :: made)
      ((sig, answer.toOption) :: judged)

section Answers

variable {catalog : Catalog} {ms : List (String × Candidate)}
  {made : List (Request × Except ClassifyError Verdict)} {judged : List (String × Option Verdict)}

theorem Answered.keys_eq (h : Answered catalog ms made judged) :
    judged.map (·.1) = ms.map (·.1) := by
  induction h with
  | nil => rfl
  | unknown lookup rest ih => rw [List.map_cons, List.map_cons, ih]
  | asked lookup answer rest ih => rw [List.map_cons, List.map_cons, ih]

/-- The calls under the signatures that they are made for: one for each candidate with a known rule; and
the outcomes that are verdicts are their answers. -/
theorem Answered.exists_signed (h : Answered catalog ms made judged) :
    ∃ signed : List (String × Request × Except ClassifyError Verdict),
      signed.map (·.2) = made ∧ List.Sublist (signed.map (·.1)) (ms.map (·.1)) ∧
      (∀ sig q, (∃ answer, (sig, q, answer) ∈ signed) ↔
        ∃ c r, (sig, c) ∈ ms ∧ catalog.lookup c.ruleId = .ok r ∧ q = .ofCandidate c r) ∧
      ∀ sig v, (sig, some v) ∈ judged ↔ ∃ q, (sig, q, .ok v) ∈ signed := by
  induction h with
  | nil => exact ⟨[], rfl, .slnil, by simp, by simp⟩
  | @unknown sig c e ms made judged lookup rest ih =>
    obtain ⟨signed, hmade, hsub, hcalls, hverdicts⟩ := ih
    refine ⟨signed, hmade, hsub.cons _, fun sig' q => ?_, fun sig' v => ?_⟩
    · rw [hcalls]
      constructor
      · rintro ⟨d, r, hd, hr⟩
        exact ⟨d, r, List.mem_cons_of_mem _ hd, hr⟩
      · rintro ⟨d, r, hd, hlookup, hq⟩
        rcases List.mem_cons.mp hd with heq | hd
        · obtain ⟨-, rfl⟩ := Prod.mk.inj heq
          rw [lookup] at hlookup
          cases hlookup
        · exact ⟨d, r, hd, hlookup, hq⟩
    · rw [← hverdicts, List.mem_cons]
      simp
  | @asked sig c r ms made judged lookup answer rest ih =>
    obtain ⟨signed, hmade, hsub, hcalls, hverdicts⟩ := ih
    refine ⟨(sig, .ofCandidate c r, answer) :: signed, by rw [List.map_cons, hmade], hsub.cons_cons _,
      fun sig' q => ?_, fun sig' v => ?_⟩
    · constructor
      · rintro ⟨answer', hmem⟩
        rcases List.mem_cons.mp hmem with heq | hmem
        · cases heq
          exact ⟨c, r, List.mem_cons_self, lookup, rfl⟩
        · obtain ⟨d, r', hd, hr'⟩ := (hcalls sig' q).mp ⟨answer', hmem⟩
          exact ⟨d, r', List.mem_cons_of_mem _ hd, hr'⟩
      · rintro ⟨d, r', hd, hlookup, rfl⟩
        rcases List.mem_cons.mp hd with heq | hd
        · cases heq
          rw [lookup, Except.ok.injEq] at hlookup
          exact ⟨answer, hlookup ▸ List.mem_cons_self⟩
        · obtain ⟨answer', hmem⟩ := (hcalls sig' _).mpr ⟨d, r', hd, hlookup, rfl⟩
          exact ⟨answer', List.mem_cons_of_mem _ hmem⟩
    · rw [List.mem_cons, hverdicts]
      cases answer with
      | error e => simp [Except.toOption]
      | ok u =>
        simp only [Except.toOption, List.mem_cons, Prod.mk.injEq, Option.some.injEq, Except.ok.injEq]
        constructor
        · rintro (⟨rfl, rfl⟩ | ⟨q, hq⟩)
          · exact ⟨_, Or.inl ⟨rfl, rfl, rfl⟩⟩
          · exact ⟨q, Or.inr hq⟩
        · rintro ⟨q, ⟨hsig, -, hv⟩ | hq⟩
          · exact Or.inl ⟨hsig, hv⟩
          · exact Or.inr ⟨q, hq⟩

end Answers

/-- The calls that judging makes, each answered by the classifier. -/
theorem exists_answered (a : Analyzer) :
    ∀ ms : List (String × Candidate), ∃ made,
      Answered a.catalog ms made (ms.map fun p => (p.1, a.outcome p.2)) ∧
      made.map (·.1) = ms.flatMap (fun p => a.asks p.2) ∧ ∀ m ∈ made, m.2 = a.classifier m.1
  | [] => ⟨[], .nil, rfl, by simp⟩
  | (sig, c) :: ms => by
    obtain ⟨made, hanswered, hcalls, hmade⟩ := exists_answered a ms
    rw [List.map_cons, List.flatMap_cons, Analyzer.outcome, Analyzer.asks, Analyzer.request]
    cases hr : a.catalog.lookup c.ruleId with
    | error e => exact ⟨made, .unknown hr hanswered, hcalls, hmade⟩
    | ok r =>
      refine ⟨_, .asked hr (a.classifier (.ofCandidate c r)) hanswered, ?_, ?_⟩
      · rw [List.map_cons, hcalls]
        rfl
      · exact List.forall_mem_cons.mpr ⟨rfl, hmade⟩

/-! ## Verdicts -/

/-- The verdict on a signature, if there is one: the one in the store, or else the one that came of
asking. -/
def givenVerdict? (store : Store) (judged : List (String × Option Verdict)) (sig : String) :
    Option Verdict :=
  (store.get? sig).or ((judged.find? fun p => p.1 == sig).bind (·.2))

section Verdicts

variable {store : Store} {cs : List Candidate} {sig : String} {judged : List (String × Option Verdict)}

theorem mem_hits {v : Verdict} (h : (sig, v) ∈ hits store cs) : store.get? sig = some v := by
  obtain ⟨p, -, hp⟩ := List.mem_filterMap.mp h
  obtain ⟨u, hu, heq⟩ := Option.map_eq_some_iff.mp hp
  obtain ⟨rfl, rfl⟩ := Prod.mk.inj heq
  exact hu

theorem mem_hits_of_first {c : Candidate} {v : Verdict}
    (hc : cs.find? (fun c => c.signature == sig) = some c) (hv : store.get? sig = some v) :
    (sig, v) ∈ hits store cs := by
  refine List.mem_filterMap.mpr ⟨(sig, c), mem_firstOccurrences_signed.mpr hc, ?_⟩
  rw [hv, Option.map_some]

/-- A pair found by its key has that key. -/
theorem verdictOf_eq {verdicts : List (String × Verdict)} {v : Verdict}
    (hmem : (sig, v) ∈ verdicts) (huniq : ∀ u, (sig, u) ∈ verdicts → u = v) :
    verdictOf verdicts sig = some v := by
  rw [verdictOf]
  cases hfind : verdicts.find? fun p => p.1 == sig with
  | none =>
    have hnot := List.find?_eq_none.mp hfind (sig, v) hmem
    exact absurd (beq_self_eq_true sig) hnot
  | some p =>
    obtain ⟨k, u⟩ := p
    obtain rfl : k = sig := by simpa using List.find?_some hfind
    rw [Option.map_some, huniq u (List.mem_of_find?_eq_some hfind)]

theorem verdictOf_append (l l' : List (String × Verdict)) (sig : String) :
    verdictOf (l ++ l') sig = (verdictOf l sig).or (verdictOf l' sig) := by
  rw [verdictOf, verdictOf, verdictOf, List.find?_append, Option.map_or]

theorem verdictOf_hits {c : Candidate} (hc : c ∈ cs) :
    verdictOf (hits store cs) c.signature = store.get? c.signature := by
  cases hstore : store.get? c.signature with
  | some v =>
    obtain ⟨d, hd⟩ := exists_first hc
    refine verdictOf_eq (mem_hits_of_first hd hstore) fun u hu => ?_
    rw [mem_hits hu, Option.some.injEq] at hstore
    exact hstore
  | none =>
    rw [verdictOf, Option.map_eq_none_iff, List.find?_eq_none]
    rintro ⟨sig, v⟩ hmem hsig
    rw [← beq_iff_eq.mp hsig, mem_hits hmem] at hstore
    exact absurd hstore (by simp)

section Judged

variable (hkeys : judged.map (·.1) = (misses store cs).map (·.1))

include hkeys

/-- There is an outcome for each signature that the store has no verdict for, and for no other. -/
theorem mem_keys_iff :
    sig ∈ judged.map (·.1) ↔ store.get? sig = none ∧
      ∃ c, cs.find? (fun c => c.signature == sig) = some c := by
  rw [hkeys, List.mem_map]
  constructor
  · rintro ⟨⟨k, c⟩, hmem, rfl⟩
    obtain ⟨hnone, hc⟩ := mem_misses.mp hmem
    exact ⟨hnone, c, hc⟩
  · rintro ⟨hnone, c, hc⟩
    exact ⟨(sig, c), mem_misses.mpr ⟨hnone, hc⟩, rfl⟩

theorem nodup_keys : (judged.map (·.1)).Nodup := hkeys ▸ nodup_misses store cs

theorem givenVerdict?_eq_some_iff {v : Verdict} :
    givenVerdict? store judged sig = some v ↔
      store.get? sig = some v ∨ (sig, some v) ∈ judged := by
  rw [givenVerdict?]
  cases hstore : store.get? sig with
  | some u =>
    have hnot : (sig, some v) ∉ judged := fun hmem => by
      have hnone := ((mem_keys_iff hkeys).mp (List.mem_map_of_mem hmem)).1
      rw [hstore] at hnone
      cases hnone
    simp [hnot]
  | none =>
    rw [Option.none_or, Option.bind_eq_some_iff, ← find?_key_eq_some_iff (nodup_keys hkeys)]
    simp only [reduceCtorEq, false_or]
    constructor
    · rintro ⟨⟨k, o⟩, hfind, rfl⟩
      obtain rfl : k = sig := by simpa using List.find?_some hfind
      exact hfind
    · intro hfind
      exact ⟨_, hfind, rfl⟩

/-- The findings of a run are the candidates that the given verdicts confirm.  Where there is none, a
candidate is judged by the verdict for failures. -/
theorem findings_conclude :
    (conclude store cs judged).findings = cs.filterMap fun c => Finding.confirm c
      ((givenVerdict? store judged c.signature).getD Verdict.analysisError) := by
  rw [conclude]
  dsimp only
  rw [findings, List.filterMap_map]
  refine List.filterMap_congr fun c hc => ?_
  dsimp only [Function.comp]
  rw [verdictOf_append, verdictOf_hits hc, givenVerdict?]
  cases hstore : store.get? c.signature with
  | some v => rfl
  | none =>
    obtain ⟨⟨k, o⟩, hmem, hk⟩ :=
      List.mem_map.mp ((mem_keys_iff hkeys).mpr ⟨hstore, exists_first hc⟩)
    obtain rfl : k = c.signature := hk
    have hfind := (find?_key_eq_some_iff (nodup_keys hkeys)).mpr hmem
    rw [Option.none_or, Option.none_or, verdictOf, List.find?_map]
    have hcomp : ((fun p : String × Verdict => p.1 == c.signature) ∘
        fun p : String × Option Verdict => (p.1, p.2.getD Verdict.analysisError)) =
        fun p => p.1 == c.signature := rfl
    rw [hcomp, hfind]
    rfl

end Judged

end Verdicts

/-! ## The session afterwards -/

/-- The session after outcomes have been kept in turn. -/
def keepAll : List (String × Option Verdict) → Session → Session
  | [], s => s
  | (sig, o) :: l, s => keepAll l (s.keep sig o)

theorem keepAll_putAll :
    ∀ (l : List (String × Option Verdict)) (s : Session),
      ((keepAll l s).store, (keepAll l s).disk) = Store.putAll (given l) (s.store, s.disk)
  | [], _ => rfl
  | (_, none) :: l, s => keepAll_putAll l s
  | (sig, some v) :: l, s => keepAll_putAll l (s.keep sig (some v))

theorem calls_keepAll :
    ∀ (l : List (String × Option Verdict)) (s : Session), (keepAll l s).calls = s.calls
  | [], _ => rfl
  | (sig, o) :: l, s => by rw [keepAll, calls_keepAll l, calls_keep]

/-- Judging in turn is asking about all candidates, and keeping the outcomes in turn. -/
theorem judgeAll_eq_keepAll (a : Analyzer) :
    ∀ (ms : List (String × Candidate)) (s : Session),
      (judgeAll a ms s).2 = keepAll (ms.map fun p => (p.1, a.outcome p.2))
        { s with calls := s.calls ++ ms.flatMap fun p => a.asks p.2 }
  | [], s => by simp [judgeAll, keepAll]
  | (sig, c) :: ms, s => by
    rw [judgeAll_snd, judgeAll_eq_keepAll a ms, List.map_cons, keepAll, calls_keep]
    refine congrArg _ ?_
    cases a.outcome c with
    | none => simp [keep, ask]
    | some v => simp [keep, ask]

/-- An analysis of candidates, with the calls in the order in which they are made, their answers, the
outcomes on the signatures that are asked about, and what it returns and leaves.  Verdicts are kept in any
order. -/
inductive Analysed (catalog : Catalog) (cs : List Candidate) (s : Session) :
    List (Request × Except ClassifyError Verdict) → List (String × Option Verdict) → Outcome →
      Session → Prop
  | intro {made calls : List (Request × Except ClassifyError Verdict)}
    {judged kept : List (String × Option Verdict)}
    (answered : Answered catalog (misses s.store cs) made judged) (asked : calls.Perm made)
    (order : kept.Perm judged) :
    Analysed catalog cs s calls judged (conclude s.store cs judged)
      (keepAll kept { s with calls := s.calls ++ calls.map (·.1) }).settle

/-- What the analyzer does is such an analysis, with the answers of its classifier. -/
theorem analysed_analyze (a : Analyzer) (cs : List Candidate) (s : Session) :
    ∃ calls, Analysed a.catalog cs s calls ((misses s.store cs).map fun p => (p.1, a.outcome p.2))
        (s.analyze a cs).1 (s.analyze a cs).2 ∧
      calls.map (·.1) = (misses s.store cs).flatMap (fun p => a.asks p.2) ∧
      ∀ m ∈ calls, m.2 = a.classifier m.1 := by
  obtain ⟨made, hanswered, hcalls, hmade⟩ := exists_answered a (misses s.store cs)
  refine ⟨made, ?_, hcalls, hmade⟩
  rw [analyze_eq, judgeAll_fst, judgeAll_eq_keepAll, ← hcalls]
  exact .intro hanswered (List.Perm.refl _) (List.Perm.refl _)

theorem get?_settle (s : Session) (sig : String) : s.settle.store.get? sig = s.store.get? sig :=
  congrArg (Entries.get? sig) (s.store.entries_flush s.disk)

section Afterwards

variable {catalog : Catalog} {cs : List Candidate} {s s' : Session}
  {calls : List (Request × Except ClassifyError Verdict)} {judged : List (String × Option Verdict)}
  {o : Outcome}

theorem Analysed.keys_eq (h : Analysed catalog cs s calls judged o s') :
    judged.map (·.1) = (misses s.store cs).map (·.1) := by
  cases h with
  | intro answered asked order => exact answered.keys_eq

theorem calls_of_analysed (h : Analysed catalog cs s calls judged o s') :
    s'.calls = s.calls ++ calls.map (·.1) := by
  cases h with
  | intro answered asked order => rw [calls_settle, calls_keepAll]

/-- An analysis leaves the given verdicts in memory. -/
theorem get?_of_analysed (h : Analysed catalog cs s calls judged o s')
    (henabled : s.store.isEnabled = true) (sig : String) :
    s'.store.get? sig = givenVerdict? s.store judged sig := by
  have hkeys := h.keys_eq
  cases h with
  | @intro made calls judged kept answered asked order =>
    have hputs := congrArg Prod.fst
      (keepAll_putAll kept { s with calls := s.calls ++ calls.map (·.1) })
    dsimp only at hputs
    have hnodup := nodup_given ((order.map (·.1)).nodup_iff.mpr (nodup_keys hkeys))
    rw [get?_settle, hputs]
    by_cases hmem : ∃ v, (sig, some v) ∈ judged
    · obtain ⟨v, hv⟩ := hmem
      rw [(givenVerdict?_eq_some_iff hkeys).mpr (Or.inr hv)]
      exact Store.get?_putAll_of_mem _ _ _ henabled hnodup (mem_given.mpr (order.mem_iff.mpr hv))
    · rw [Store.get?_putAll_of_notMem]
      · refine Option.ext fun v => ?_
        rw [givenVerdict?_eq_some_iff hkeys]
        exact ⟨Or.inl, fun hv => hv.resolve_right fun hv => hmem ⟨v, hv⟩⟩
      · intro hkey
        obtain ⟨⟨k, v⟩, hkv, rfl⟩ := List.mem_map.mp hkey
        exact hmem ⟨v, order.mem_iff.mp (mem_given.mp hkv)⟩

end Afterwards

end Session

end SinkAudit

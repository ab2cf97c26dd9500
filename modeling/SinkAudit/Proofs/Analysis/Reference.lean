import Mathlib.Data.List.Basic
import SinkAudit.Proofs.Analysis.Answers

/-!
# What an analysis finds

An analysis works in passes over signatures, but its findings can be told candidate by candidate: each
is confirmed or not by one verdict, `Session.referenceVerdict`, which is the one in the store, or else
the outcome of asking about the first candidate with the same signature.

* `Session.keptVerdict?`: the verdict that an analysis leaves for a signature, if it does not fail on it;
  `Session.givenVerdict?_outcomes`: it is the one that is given by the outcomes of asking.
* `Session.findings_of_analysed`, `Session.calls_signed_of_analysed`: the findings and the calls of an
  analysis with any answers.
* `Session.analyze_meets_reference`: the findings, and the requests that are made.
-/

namespace SinkAudit

theorem Finding.candidate_of_confirm {c : Candidate} {v : Verdict} {f : Finding}
    (h : Finding.confirm c v = some f) : f.candidate = c := by
  rw [confirm] at h
  split at h
  · obtain rfl := Option.some.inj h
    rfl
  · exact absurd h (by simp)

namespace Session

/-- The verdict on a signature: the one in the store, or else the outcome of asking about the first
candidate that has it. -/
def referenceVerdict (a : Analyzer) (store : Store) (cs : List Candidate) (sig : String) : Verdict :=
  match store.get? sig with
  | some v => v
  | none =>
    match cs.find? fun c => c.signature == sig with
    | some c => (a.outcome c).getD Verdict.analysisError
    | none => Verdict.analysisError

/-- The verdict that an analysis leaves for a signature: the one in the store, or else the outcome of
asking about the first candidate that has it, if that does not fail. -/
def keptVerdict? (a : Analyzer) (store : Store) (cs : List Candidate) (sig : String) :
    Option Verdict :=
  (store.get? sig).or ((cs.find? fun c => c.signature == sig).bind a.outcome)

/-- Candidates are judged by the verdict that is kept, or by the one for failures. -/
theorem referenceVerdict_eq_getD (a : Analyzer) (store : Store) (cs : List Candidate) (sig : String) :
    referenceVerdict a store cs sig =
      (keptVerdict? a store cs sig).getD Verdict.analysisError := by
  rw [referenceVerdict, keptVerdict?]
  cases store.get? sig with
  | some v => rfl
  | none =>
    cases cs.find? fun c => c.signature == sig with
    | none => rfl
    | some c => rfl

/-- The verdict that is kept is the one that is given by the outcomes of asking. -/
theorem givenVerdict?_outcomes (a : Analyzer) (store : Store) (cs : List Candidate) (sig : String) :
    givenVerdict? store ((misses store cs).map fun p => (p.1, a.outcome p.2)) sig =
      keptVerdict? a store cs sig := by
  refine Option.ext fun v => ?_
  rw [givenVerdict?_eq_some_iff (keys_outcomes a _), keptVerdict?, List.mem_map]
  have hasked : (∃ p ∈ misses store cs, (p.1, a.outcome p.2) = (sig, some v)) ↔
      store.get? sig = none ∧ (cs.find? fun c => c.signature == sig).bind a.outcome = some v := by
    constructor
    · rintro ⟨⟨k, c⟩, hmem, hpair⟩
      obtain ⟨rfl, hv⟩ := Prod.mk.inj hpair
      obtain ⟨hnone, hc⟩ := mem_misses.mp hmem
      exact ⟨hnone, Option.bind_eq_some_iff.mpr ⟨c, hc, hv⟩⟩
    · rintro ⟨hnone, hv⟩
      obtain ⟨c, hc, hv⟩ := Option.bind_eq_some_iff.mp hv
      exact ⟨(sig, c), mem_misses.mpr ⟨hnone, hc⟩, Prod.ext rfl hv⟩
  rw [hasked]
  cases store.get? sig with
  | some u => simp
  | none => simp

/-! ## Findings -/

theorem findings_analyze (a : Analyzer) (cs : List Candidate) (s : Session) :
    (s.analyze a cs).1.findings = cs.filterMap fun c =>
      Finding.confirm c ((keptVerdict? a s.store cs c.signature).getD Verdict.analysisError) := by
  rw [analyze_eq, judgeAll_fst]
  dsimp only
  rw [findings_conclude (keys_outcomes a _)]
  exact List.filterMap_congr fun c _ => by rw [givenVerdict?_outcomes]

/-- Candidates that are confirmed are in their order, and unchanged. -/
theorem candidates_confirm_sublist (cs : List Candidate) (f : Candidate → Verdict) :
    List.Sublist ((cs.filterMap fun c => Finding.confirm c (f c)).map (·.candidate)) cs := by
  have hsub := map_filterMap_sublist (h := id)
    (fun c _ hf => Finding.candidate_of_confirm (v := f c) hf) cs
  rwa [List.map_id] at hsub

section Analyses

variable {catalog : Catalog} {cs : List Candidate} {s s' : Session}
  {calls : List (Request × Except ClassifyError Verdict)} {judged : List (String × Option Verdict)}
  {o : Outcome}

theorem findings_of_analysed (h : Analysed catalog cs s calls judged o s') :
    o.findings = cs.filterMap fun c => Finding.confirm c
      ((givenVerdict? s.store judged c.signature).getD Verdict.analysisError) := by
  cases h with
  | intro answered asked order => exact findings_conclude answered.keys_eq

/-- The calls of an analysis under the signatures that they are made for, and the verdicts that come of
them. -/
theorem calls_signed_of_analysed (h : Analysed catalog cs s calls judged o s') :
    ∃ made : List (String × Request × Except ClassifyError Verdict),
      calls.Perm (made.map (·.2)) ∧ (made.map (·.1)).Nodup ∧
      (∀ sig q, (∃ answer, (sig, q, answer) ∈ made) ↔ s.store.get? sig = none ∧
        ∃ c r, cs.find? (fun c => c.signature == sig) = some c ∧
          catalog.lookup c.ruleId = .ok r ∧ q = .ofCandidate c r) ∧
      ∀ sig v, givenVerdict? s.store judged sig = some v ↔
        s.store.get? sig = some v ∨ ∃ q, (sig, q, .ok v) ∈ made := by
  have hkeys := h.keys_eq
  cases h with
  | intro answered asked order =>
    obtain ⟨made, rfl, hsub, hcalls, hverdicts⟩ := answered.exists_signed
    refine ⟨made, asked, (nodup_misses s.store cs).sublist hsub, fun sig q => ?_, fun sig v => ?_⟩
    · rw [hcalls]
      constructor
      · rintro ⟨c, r, hmem, hr⟩
        obtain ⟨hnone, hc⟩ := mem_misses.mp hmem
        exact ⟨hnone, c, r, hc, hr⟩
      · rintro ⟨hnone, c, r, hc, hr⟩
        exact ⟨c, r, mem_misses.mpr ⟨hnone, hc⟩, hr⟩
    · rw [givenVerdict?_eq_some_iff hkeys, hverdicts]

end Analyses

/-! ## Requests -/

/-- The requests that a run makes, with the signatures that they are made for. -/
def asked (a : Analyzer) (ms : List (String × Candidate)) : List (String × Request) :=
  ms.filterMap fun p => (a.request p.2).toOption.map fun q => (p.1, q)

theorem asked_map_snd (a : Analyzer) :
    ∀ ms : List (String × Candidate), (asked a ms).map (·.2) = ms.flatMap fun p => a.asks p.2
  | [] => rfl
  | (sig, c) :: ms => by
    rw [List.flatMap_cons, ← asked_map_snd a ms, Analyzer.asks, asked]
    cases hc : (a.request c).toOption with
    | none =>
      rw [List.filterMap_cons_none (by rw [hc]; rfl)]
      rfl
    | some q =>
      rw [List.filterMap_cons_some (b := (sig, q)) (by rw [hc]; rfl)]
      rfl

theorem mem_asked {a : Analyzer} {ms : List (String × Candidate)} {sig : String} {q : Request} :
    (sig, q) ∈ asked a ms ↔ ∃ c, (sig, c) ∈ ms ∧ a.request c = .ok q := by
  rw [asked, List.mem_filterMap]
  constructor
  · rintro ⟨⟨k, c⟩, hmem, hq⟩
    obtain ⟨r, hr, hpair⟩ := Option.map_eq_some_iff.mp hq
    obtain ⟨rfl, rfl⟩ := Prod.mk.inj hpair
    exact ⟨c, hmem, Analyzer.mem_asks.mp (by rw [Analyzer.asks, hr]; exact List.mem_cons_self)⟩
  · rintro ⟨c, hmem, hq⟩
    exact ⟨(sig, c), hmem, by rw [hq]; rfl⟩

/-- An analysis asks about the signatures that the store has no verdict for. -/
theorem mem_asked_misses {a : Analyzer} {store : Store} {cs : List Candidate} {sig : String}
    {q : Request} :
    (sig, q) ∈ asked a (misses store cs) ↔ store.get? sig = none ∧
      ∃ c, cs.find? (fun c => c.signature == sig) = some c ∧ a.request c = .ok q := by
  rw [mem_asked]
  constructor
  · rintro ⟨c, hmem, hq⟩
    obtain ⟨hnone, hc⟩ := mem_misses.mp hmem
    exact ⟨hnone, c, hc, hq⟩
  · rintro ⟨hnone, c, hc, hq⟩
    exact ⟨c, mem_misses.mpr ⟨hnone, hc⟩, hq⟩

/-- **Reference semantics.**  The findings are those candidates, in their order and unchanged, that
their reference verdicts confirm; and there is one request for each signature that the store has no
verdict for and whose first candidate has a known rule, and no other.  The same holds however the requests are
answered, and in whatever order they are made and the verdicts are kept: then the verdict on a signature is the
one in the store, or else the answer to the request for it, if that is a verdict. -/
theorem analyze_meets_reference (a : Analyzer) (cs : List Candidate) (s : Session) :
    (s.analyze a cs).1.findings =
        cs.filterMap (fun c => Finding.confirm c (referenceVerdict a s.store cs c.signature)) ∧
      List.Sublist ((s.analyze a cs).1.findings.map (·.candidate)) cs ∧
      (∃ made : List (String × Request),
        (s.analyze a cs).2.calls = s.calls ++ made.map (·.2) ∧
        (made.map (·.1)).Nodup ∧
        ∀ sig q, (sig, q) ∈ made ↔ s.store.get? sig = none ∧
          ∃ c, cs.find? (fun c => c.signature == sig) = some c ∧ a.request c = .ok q) ∧
      ∀ catalog calls judged o s', Analysed catalog cs s calls judged o s' →
        o.findings = cs.filterMap (fun c => Finding.confirm c
          ((givenVerdict? s.store judged c.signature).getD Verdict.analysisError)) ∧
        List.Sublist (o.findings.map (·.candidate)) cs ∧
        s'.calls = s.calls ++ calls.map (·.1) ∧
        ∃ made : List (String × Request × Except ClassifyError Verdict),
          calls.Perm (made.map (·.2)) ∧ (made.map (·.1)).Nodup ∧
          (∀ sig q, (∃ answer, (sig, q, answer) ∈ made) ↔ s.store.get? sig = none ∧
            ∃ c r, cs.find? (fun c => c.signature == sig) = some c ∧
              catalog.lookup c.ruleId = .ok r ∧ q = .ofCandidate c r) ∧
          ∀ sig v, givenVerdict? s.store judged sig = some v ↔
            s.store.get? sig = some v ∨ ∃ q, (sig, q, .ok v) ∈ made := by
  have hfindings : (s.analyze a cs).1.findings =
      cs.filterMap fun c => Finding.confirm c (referenceVerdict a s.store cs c.signature) := by
    rw [findings_analyze]
    exact List.filterMap_congr fun c _ => by rw [referenceVerdict_eq_getD]
  refine ⟨hfindings, ?_, ⟨asked a (misses s.store cs), ?_, ?_, fun sig q => mem_asked_misses⟩,
    fun catalog calls judged o s' h => ?_⟩
  · rw [hfindings]
    exact candidates_confirm_sublist cs _
  · rw [calls_analyze, asked_map_snd]
  · refine (nodup_misses s.store cs).sublist (map_filterMap_sublist (fun p y hp => ?_) _)
    obtain ⟨q, -, rfl⟩ := Option.map_eq_some_iff.mp hp
    rfl
  · have hany := findings_of_analysed h
    refine ⟨hany, ?_, calls_of_analysed h, calls_signed_of_analysed h⟩
    rw [hany]
    exact candidates_confirm_sublist cs _

end Session

end SinkAudit

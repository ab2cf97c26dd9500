import SinkAudit.Analysis.Basic

/-!
# The passes of an analysis

An analysis signs its candidates, keeps the first of each signature, looks these up in the store, asks
about the ones that are missing, and puts verdicts and candidates together again.  Here each pass is
described by itself.

* `mem_firstOccurrences`: what is kept is the first pair with its key, and every key once
  (`nodup_firstOccurrences`).
* `Analyzer.outcome`, `Analyzer.asks`: the verdict on a candidate and the requests made for it, as
  functions of the candidate alone; `judgeAll_fst` and `calls_judgeAll` say that judging gives these.
* `Session.misses`, `Session.conclude`: the candidates to ask about, and what is made of the verdicts on
  them; `Session.analyze_eq` is the analysis in these terms.
-/

namespace SinkAudit

/-- What is kept of a list, with a part of it unchanged, is in the order of the list. -/
theorem map_filterMap_sublist {α β γ : Type} {f : α → Option β} {g : β → γ} {h : α → γ}
    (hf : ∀ x y, f x = some y → g y = h x) :
    ∀ l : List α, List.Sublist ((l.filterMap f).map g) (l.map h)
  | [] => List.Sublist.refl _
  | x :: l => by
    have ih := map_filterMap_sublist hf l
    cases hx : f x with
    | none =>
      rw [List.filterMap_cons_none hx, List.map_cons]
      exact ih.cons _
    | some y =>
      rw [List.filterMap_cons_some hx, List.map_cons, List.map_cons, hf x y hx]
      exact ih.cons_cons _

/-! ## First occurrences -/

theorem mem_firstOccurrences {k : String} {c : Candidate} :
    ∀ (l : List (String × Candidate)) (seen : List String),
      (k, c) ∈ firstOccurrences seen l ↔
        k ∉ seen ∧ l.find? (fun p => p.1 == k) = some (k, c)
  | [], seen => by
    rw [firstOccurrences]
    exact iff_of_false (by simp) (by simp)
  | (j, d) :: l, seen => by
    rw [firstOccurrences]
    by_cases hseen : seen.contains j = true
    · rw [if_pos hseen, mem_firstOccurrences l seen]
      have hj : j ∈ seen := List.contains_iff_mem.mp hseen
      by_cases hjk : j = k
      · subst hjk
        exact iff_of_false (fun h => h.1 hj) (fun h => h.1 hj)
      · rw [List.find?_cons_of_neg (by simpa using hjk)]
    · rw [if_neg hseen, List.mem_cons, mem_firstOccurrences l (j :: seen)]
      have hj : j ∉ seen := fun h => hseen (List.contains_iff_mem.mpr h)
      by_cases hjk : j = k
      · subst hjk
        rw [List.find?_cons_of_pos (by simp), Option.some.injEq, Prod.mk.injEq, Prod.mk.injEq]
        constructor
        · rintro (⟨-, rfl⟩ | ⟨h, -⟩)
          · exact ⟨hj, rfl, rfl⟩
          · exact absurd List.mem_cons_self h
        · rintro ⟨-, -, rfl⟩
          exact Or.inl ⟨rfl, rfl⟩
      · rw [List.find?_cons_of_neg (by simpa using hjk), List.mem_cons, not_or]
        constructor
        · rintro (h | ⟨⟨-, hk⟩, hfind⟩)
          · exact absurd (Prod.mk.inj h).1.symm hjk
          · exact ⟨hk, hfind⟩
        · rintro ⟨hk, hfind⟩
          exact Or.inr ⟨⟨fun h => hjk h.symm, hk⟩, hfind⟩

/-- Every key is kept once. -/
theorem nodup_firstOccurrences :
    ∀ (l : List (String × Candidate)) (seen : List String),
      ((firstOccurrences seen l).map (·.1)).Nodup
  | [], seen => by
    rw [firstOccurrences]
    exact List.nodup_nil
  | (j, d) :: l, seen => by
    rw [firstOccurrences]
    by_cases hseen : seen.contains j = true
    · rw [if_pos hseen]
      exact nodup_firstOccurrences l seen
    · rw [if_neg hseen, List.map_cons, List.nodup_cons]
      refine ⟨fun h => ?_, nodup_firstOccurrences l (j :: seen)⟩
      obtain ⟨⟨k, c⟩, hmem, rfl⟩ := List.mem_map.mp h
      exact ((mem_firstOccurrences l _).mp hmem).1 List.mem_cons_self

/-- The first candidate with a signature is a candidate and has it. -/
theorem first_spec {cs : List Candidate} {sig : String} {c : Candidate}
    (h : cs.find? (fun c => c.signature == sig) = some c) : c ∈ cs ∧ c.signature = sig :=
  ⟨List.mem_of_find?_eq_some h, by simpa using List.find?_some h⟩

/-- The signature of a candidate has a first candidate. -/
theorem exists_first {cs : List Candidate} {c : Candidate} (hc : c ∈ cs) :
    ∃ d, cs.find? (fun d => d.signature == c.signature) = some d :=
  Option.isSome_iff_exists.mp (List.find?_isSome.mpr ⟨c, hc, beq_self_eq_true _⟩)

/-- The signed candidates that are kept are the first ones with their signatures. -/
theorem mem_firstOccurrences_signed {cs : List Candidate} {k : String} {c : Candidate} :
    (k, c) ∈ firstOccurrences [] (cs.map fun c => (c.signature, c)) ↔
      cs.find? (fun c => c.signature == k) = some c := by
  have hcomp : ((fun p : String × Candidate => p.1 == k) ∘ fun c => (c.signature, c)) =
      fun c => c.signature == k := rfl
  rw [mem_firstOccurrences, List.find?_map, hcomp]
  constructor
  · rintro ⟨-, h⟩
    obtain ⟨d, hd, hpair⟩ := Option.map_eq_some_iff.mp h
    rw [hd, (Prod.mk.inj hpair).2]
  · intro h
    rw [h, Option.map_some, (first_spec h).2]
    exact ⟨by simp, rfl⟩

/-! ## Asking -/

namespace Analyzer

/-- The verdict that asking about a candidate gives, if there is one. -/
def outcome (a : Analyzer) (c : Candidate) : Option Verdict :=
  match a.request c with
  | .error _ => none
  | .ok q => (a.classifier q).toOption

/-- The requests that asking about a candidate makes: one, if its rule is known. -/
def asks (a : Analyzer) (c : Candidate) : List Request :=
  (a.request c).toOption.toList

theorem mem_asks {a : Analyzer} {c : Candidate} {q : Request} :
    q ∈ a.asks c ↔ a.request c = .ok q := by
  rw [asks]
  cases a.request c with
  | error e => exact iff_of_false (by simp [Except.toOption]) (by simp)
  | ok r => simp [Except.toOption, eq_comm]

end Analyzer

namespace Session

/-- The session after a verdict has been kept, if there is one. -/
def keep (sig : String) (o : Option Verdict) (s : Session) : Session :=
  match o with
  | none => s
  | some v =>
    let (_, store, disk) := s.store.put s.disk sig v
    { s with store := store, disk := disk }

/-- The session after a candidate has been asked about. -/
def ask (a : Analyzer) (c : Candidate) (s : Session) : Session :=
  { s with calls := s.calls ++ a.asks c }

@[simp] theorem calls_keep (sig : String) (o : Option Verdict) (s : Session) :
    (s.keep sig o).calls = s.calls := by
  cases o with
  | none => rfl
  | some v => rfl

/-- Judging is asking and keeping the verdict. -/
theorem judge_eq (a : Analyzer) (sig : String) (c : Candidate) (s : Session) :
    s.judge a sig c = (a.outcome c, (s.ask a c).keep sig (a.outcome c)) := by
  rw [judge, ask, Analyzer.outcome, Analyzer.asks]
  cases a.request c with
  | error e => simp [Except.toOption, keep]
  | ok q =>
    cases hq : a.classifier q with
    | error e => simp [hq, Except.toOption, keep]
    | ok v => simp [hq, Except.toOption, keep]

/-- Judging gives each candidate the outcome of asking about it. -/
theorem judgeAll_fst (a : Analyzer) :
    ∀ (ms : List (String × Candidate)) (s : Session),
      (judgeAll a ms s).1 = ms.map fun p => (p.1, a.outcome p.2)
  | [], s => rfl
  | (sig, c) :: ms, s => by
    rw [judgeAll, judge_eq, List.map_cons, ← judgeAll_fst a ms]

theorem judgeAll_snd (a : Analyzer) (sig : String) (c : Candidate)
    (ms : List (String × Candidate)) (s : Session) :
    (judgeAll a ((sig, c) :: ms) s).2 =
      (judgeAll a ms ((s.ask a c).keep sig (a.outcome c))).2 := by
  rw [judgeAll, judge_eq]

/-- Every candidate is asked about, in turn. -/
theorem calls_judgeAll (a : Analyzer) :
    ∀ (ms : List (String × Candidate)) (s : Session),
      (judgeAll a ms s).2.calls = s.calls ++ ms.flatMap fun p => a.asks p.2
  | [], s => (List.append_nil _).symm
  | (sig, c) :: ms, s => by
    rw [judgeAll_snd, calls_judgeAll a ms, calls_keep, List.flatMap_cons, ← List.append_assoc]
    rfl

/-- The outcomes that are verdicts. -/
def given (judged : List (String × Option Verdict)) : List (String × Verdict) :=
  judged.filterMap fun p => p.2.map fun v => (p.1, v)

theorem mem_given {judged : List (String × Option Verdict)} {sig : String} {v : Verdict} :
    (sig, v) ∈ given judged ↔ (sig, some v) ∈ judged := by
  rw [given, List.mem_filterMap]
  constructor
  · rintro ⟨⟨k, o⟩, hmem, ho⟩
    obtain ⟨u, rfl, hpair⟩ := Option.map_eq_some_iff.mp ho
    cases hpair
    exact hmem
  · intro hmem
    exact ⟨_, hmem, rfl⟩

theorem nodup_given {judged : List (String × Option Verdict)} (h : (judged.map (·.1)).Nodup) :
    ((given judged).map (·.1)).Nodup := by
  refine h.sublist (map_filterMap_sublist (fun p y hp => ?_) judged)
  obtain ⟨v, -, rfl⟩ := Option.map_eq_some_iff.mp hp
  rfl

theorem keys_outcomes (a : Analyzer) (ms : List (String × Candidate)) :
    (ms.map fun p => (p.1, a.outcome p.2)).map (·.1) = ms.map (·.1) := by
  rw [List.map_map]
  rfl

/-- The verdicts that come of asking, with their signatures. -/
def puts (a : Analyzer) (ms : List (String × Candidate)) : List (String × Verdict) :=
  ms.filterMap fun p => (a.outcome p.2).map fun v => (p.1, v)

theorem puts_eq_given (a : Analyzer) (ms : List (String × Candidate)) :
    puts a ms = given (ms.map fun p => (p.1, a.outcome p.2)) := by
  rw [given, List.filterMap_map]
  rfl

theorem mem_puts {a : Analyzer} {ms : List (String × Candidate)} {sig : String} {c : Candidate}
    {v : Verdict} (hmem : (sig, c) ∈ ms) (hv : a.outcome c = some v) : (sig, v) ∈ puts a ms := by
  rw [puts_eq_given, mem_given]
  exact List.mem_map.mpr ⟨_, hmem, by rw [hv]⟩

/-- Verdicts are put for distinct signatures, if candidates are asked about for distinct ones. -/
theorem nodup_puts (a : Analyzer) {ms : List (String × Candidate)} (h : (ms.map (·.1)).Nodup) :
    ((puts a ms).map (·.1)).Nodup := by
  rw [puts_eq_given]
  exact nodup_given ((keys_outcomes a ms).symm ▸ h)

/-! ## The analysis as a whole -/

/-- The first candidates of the signatures that a store has no verdict for. -/
def misses (store : Store) (cs : List Candidate) : List (String × Candidate) :=
  (firstOccurrences [] (cs.map fun c => (c.signature, c))).filter fun p => (store.get? p.1).isNone

/-- The verdicts that a store has for the signatures of candidates. -/
def hits (store : Store) (cs : List Candidate) : List (String × Verdict) :=
  (firstOccurrences [] (cs.map fun c => (c.signature, c))).filterMap fun p =>
    (store.get? p.1).map fun v => (p.1, v)

/-- What is made of the outcomes of asking, with what the store had to start with. -/
def conclude (store : Store) (cs : List Candidate) (judged : List (String × Option Verdict)) :
    Outcome :=
  let signed := cs.map fun c => (c.signature, c)
  let verdicts := hits store cs ++ judged.map fun p => (p.1, p.2.getD Verdict.analysisError)
  let found := findings verdicts signed
  let classified := (judged.filter fun p => p.2.isSome).length
  ⟨found,
    { candidates := cs.length, unique := (firstOccurrences [] signed).length,
      cacheHits := (hits store cs).length, classified := classified,
      failures := judged.length - classified, confirmed := found.length }⟩

theorem analyze_eq (a : Analyzer) (cs : List Candidate) (s : Session) :
    s.analyze a cs =
      (conclude s.store cs (judgeAll a (misses s.store cs) s).1,
        (judgeAll a (misses s.store cs) s).2.settle) := rfl

@[simp] theorem calls_settle (s : Session) : s.settle.calls = s.calls := rfl

theorem calls_analyze (a : Analyzer) (cs : List Candidate) (s : Session) :
    (s.analyze a cs).2.calls = s.calls ++ (misses s.store cs).flatMap fun p => a.asks p.2 := by
  rw [analyze_eq, calls_settle, calls_judgeAll]

theorem mem_misses {store : Store} {cs : List Candidate} {sig : String} {c : Candidate} :
    (sig, c) ∈ misses store cs ↔
      store.get? sig = none ∧ cs.find? (fun c => c.signature == sig) = some c := by
  rw [misses, List.mem_filter, mem_firstOccurrences_signed, Option.isNone_iff_eq_none, and_comm]

/-- The signatures that are asked about are distinct. -/
theorem nodup_misses (store : Store) (cs : List Candidate) :
    ((misses store cs).map (·.1)).Nodup :=
  (nodup_firstOccurrences _ []).sublist (List.filter_sublist.map _)

end Session

end SinkAudit

import Mathlib.Algebra.GroupWithZero.Nat
import Mathlib.Data.List.Basic
import Mathlib.Logic.Relation
import SinkAudit.Proofs.Analysis.Answers
import SinkAudit.Proofs.Store.Usage

/-!
# Analyses with several workers

The candidates that an analysis asks about may be shared among workers.  Each worker takes a candidate
that waits, asks about it, and then puts the verdict into the store, which only one worker holds at a
time.  So the steps of the workers come in any order that keeps asking before putting, and with no
more candidates in between than there are workers.

* `Pool`, `Pool.Step`: how far the workers are, and one step of one of them.
* `Pool.Inv`: what every run keeps: verdicts belong to their candidates, and the requests and puts made
  so far are those of the candidates that got so far, in some order.
* `Pool.kept_of_stuck`, `Pool.exists_stuck`: a run ends, and when it does every candidate is done.
* `Session.schedule_independent`: the end of a run is that of the analysis in turn.
-/

namespace SinkAudit

/-- How far a candidate is. -/
inductive Progress where
  | waiting
  | asked (o : Option Verdict)
  | kept (o : Option Verdict)

/-- A candidate under its signature, and how far it is. -/
structure Task where
  sig : String
  candidate : Candidate
  progress : Progress

namespace Task

/-- A worker is busy with the candidate. -/
def isBusy (t : Task) : Bool :=
  match t.progress with
  | .asked _ => true
  | _ => false

/-- The requests made for the candidate so far. -/
def calls (a : Analyzer) (t : Task) : List Request :=
  match t.progress with
  | .waiting => []
  | _ => a.asks t.candidate

/-- The verdict put for the candidate so far. -/
def put? (t : Task) : Option (String × Verdict) :=
  match t.progress with
  | .kept (some v) => some (t.sig, v)
  | _ => none

/-- What has come of the candidate. -/
def result (t : Task) : String × Option Verdict :=
  match t.progress with
  | .kept o => (t.sig, o)
  | _ => (t.sig, none)

/-- A verdict that a worker has is the one on its candidate. -/
def Sound (a : Analyzer) (t : Task) : Prop :=
  ∀ o, t.progress = .asked o ∨ t.progress = .kept o → o = a.outcome t.candidate

/-- The steps that are left. -/
def left (t : Task) : Nat :=
  match t.progress with
  | .waiting => 2
  | .asked _ => 1
  | .kept _ => 0

end Task

/-- Candidates in the hands of workers, with the session that these share. -/
structure Pool where
  tasks : List Task
  session : Session

namespace Pool

/-- All candidates wait. -/
def start (ms : List (String × Candidate)) (s : Session) : Pool :=
  ⟨ms.map fun p => ⟨p.1, p.2, .waiting⟩, s⟩

/-- One step of one worker: it asks about a candidate, or puts the verdict that it got.  There is
at least one worker. -/
inductive Step (a : Analyzer) (workers : Nat) : Pool → Pool → Prop
  | ask {l r : List Task} {sig : String} {c : Candidate} {s : Session}
    (free : (l ++ r).countP Task.isBusy < max workers 1) :
    Step a workers ⟨l ++ ⟨sig, c, .waiting⟩ :: r, s⟩
      ⟨l ++ ⟨sig, c, .asked (a.outcome c)⟩ :: r, s.ask a c⟩
  | keep {l r : List Task} {sig : String} {c : Candidate} {o : Option Verdict} {s : Session} :
    Step a workers ⟨l ++ ⟨sig, c, .asked o⟩ :: r, s⟩ ⟨l ++ ⟨sig, c, .kept o⟩ :: r, s.keep sig o⟩

/-- Steps in turn. -/
def Run (a : Analyzer) (workers : Nat) : Pool → Pool → Prop :=
  Relation.ReflTransGen (Step a workers)

/-- No worker can do anything more. -/
def Stuck (a : Analyzer) (workers : Nat) (P : Pool) : Prop := ∀ P', ¬Step a workers P P'

/-- What has come of the candidates, in their order. -/
def results (P : Pool) : List (String × Option Verdict) := P.tasks.map Task.result

/-! ## Runs end -/

variable {a : Analyzer} {workers : Nat} {P P' : Pool}

/-- When no worker can do anything more, every candidate is done. -/
theorem kept_of_stuck (h : Stuck a workers P) :
    ∀ t ∈ P.tasks, ∃ o, t.progress = .kept o := by
  obtain ⟨tasks, s⟩ := P
  -- A worker that is busy can put its verdict.
  have hbusy : ∀ t ∈ tasks, t.isBusy = false := by
    rintro ⟨sig, c, p⟩ ht
    cases p with
    | waiting => rfl
    | kept o => rfl
    | asked o =>
      obtain ⟨l, r, rfl⟩ := List.append_of_mem ht
      exact absurd .keep (h _)
  -- So all of them are free, and one could ask about a candidate that waits.
  rintro ⟨sig, c, p⟩ ht
  cases p with
  | kept o => exact ⟨o, rfl⟩
  | asked o => exact absurd (hbusy _ ht) (by simp [Task.isBusy])
  | waiting =>
    obtain ⟨l, r, rfl⟩ := List.append_of_mem ht
    refine absurd (.ask ?_) (h _)
    have hnone : (l ++ r).countP Task.isBusy = 0 := by
      refine List.countP_eq_zero.mpr fun t ht => ?_
      have hmem : t ∈ l ++ ⟨sig, c, .waiting⟩ :: r := by
        rcases List.mem_append.mp ht with ht | ht
        · exact List.mem_append_left _ ht
        · exact List.mem_append_right _ (List.mem_cons_of_mem _ ht)
      rw [hbusy t hmem]
      exact Bool.false_ne_true
    rw [hnone]
    exact Nat.lt_of_lt_of_le Nat.zero_lt_one (Nat.le_max_right workers 1)

/-- The steps that are left to all workers. -/
def left (P : Pool) : Nat := (P.tasks.map Task.left).sum

theorem Step.left_lt (h : Step a workers P P') : P'.left < P.left := by
  cases h with
  | ask _ =>
    simp only [left, List.map_append, List.map_cons, List.sum_append, List.sum_cons, Task.left]
    omega
  | keep =>
    simp only [left, List.map_append, List.map_cons, List.sum_append, List.sum_cons, Task.left]
    omega

/-- Every run can be continued to its end. -/
theorem exists_stuck (P : Pool) : ∃ P', Run a workers P P' ∧ Stuck a workers P' := by
  induction hn : P.left using Nat.strongRecOn generalizing P with
  | ind n ih =>
    by_cases hstuck : Stuck a workers P
    · exact ⟨P, .refl, hstuck⟩
    · obtain ⟨P₁, hstep⟩ : ∃ P₁, Step a workers P P₁ := by
        simpa only [Stuck, not_forall, Classical.not_not] using hstuck
      obtain ⟨P', hrun, hend⟩ := ih P₁.left (hn ▸ hstep.left_lt) P₁ rfl
      exact ⟨P', .head hstep hrun, hend⟩

/-! ## What a run keeps -/

/-- The verdicts that workers have belong to their candidates, and the requests and puts made since
the start are those of the candidates that got so far, in some order. -/
structure Inv (a : Analyzer) (ms : List (String × Candidate)) (s : Session) (P : Pool) : Prop where
  tasks : P.tasks.map (fun t => (t.sig, t.candidate)) = ms
  sound : ∀ t ∈ P.tasks, t.Sound a
  calls : ∃ l, P.session.calls = s.calls ++ l ∧ l.Perm (P.tasks.flatMap (Task.calls a))
  puts : ∃ l, (P.session.store, P.session.disk) = Store.putAll l (s.store, s.disk) ∧
    l.Perm (P.tasks.filterMap Task.put?)

variable {ms : List (String × Candidate)} {s : Session}

theorem inv_start (a : Analyzer) (ms : List (String × Candidate)) (s : Session) :
    Inv a ms s (start ms s) := by
  refine ⟨?_, fun t ht o ho => ?_, ⟨[], (List.append_nil _).symm, ?_⟩, ⟨[], rfl, ?_⟩⟩
  · rw [start, List.map_map]
    exact List.map_id ms
  · obtain ⟨p, -, rfl⟩ := List.mem_map.mp ht
    rcases ho with ho | ho
    · exact absurd ho (by simp)
    · exact absurd ho (by simp)
  · rw [start, List.flatMap_map]
    exact List.Perm.of_eq (List.flatMap_eq_nil_iff.mpr fun _ _ => rfl).symm
  · rw [start, List.filterMap_map]
    exact List.Perm.of_eq (List.filterMap_eq_nil_iff.mpr fun _ _ => rfl).symm

/-- What is added at the end may stand anywhere. -/
theorem perm_insert_middle {α : Type} {l l₁ l₂ : List α} (h : l.Perm (l₁ ++ l₂)) (x : List α) :
    (l ++ x).Perm (l₁ ++ (x ++ l₂)) := by
  refine (h.append_right x).trans ?_
  rw [List.append_assoc]
  exact List.perm_append_comm.append_left l₁

theorem sound_set {l r : List Task} {t t' : Task} (h : ∀ u ∈ l ++ t :: r, u.Sound a)
    (ht' : t'.Sound a) : ∀ u ∈ l ++ t' :: r, u.Sound a := by
  intro u hu
  rcases List.mem_append.mp hu with hu | hu
  · exact h u (List.mem_append_left _ hu)
  · rcases List.mem_cons.mp hu with rfl | hu
    · exact ht'
    · exact h u (List.mem_append_right _ (List.mem_cons_of_mem _ hu))

theorem Inv.step (h : Inv a ms s P) (hstep : Step a workers P P') : Inv a ms s P' := by
  obtain ⟨calls, hcalls, hperm⟩ := h.calls
  obtain ⟨puts, hputs, hperm'⟩ := h.puts
  have htasks := h.tasks
  have hsound := h.sound
  cases hstep with
  | @ask l r sig c s₁ free =>
    simp only [List.map_append, List.map_cons, List.flatMap_append, List.flatMap_cons,
      List.filterMap_append] at htasks hperm hperm'
    refine ⟨?_, sound_set hsound ?_, ⟨calls ++ a.asks c, ?_, ?_⟩, ⟨puts, hputs, ?_⟩⟩
    · simp only [List.map_append, List.map_cons]
      exact htasks
    · rintro o (ho | ho)
      · exact (Progress.asked.inj ho).symm
      · exact absurd ho (by simp)
    · rw [Session.ask, hcalls, List.append_assoc]
    · rw [List.flatMap_append, List.flatMap_cons]
      exact perm_insert_middle hperm _
    · rw [List.filterMap_append]
      exact hperm'
  | @keep l r sig c o s₁ =>
    simp only [List.map_append, List.map_cons, List.flatMap_append, List.flatMap_cons,
      List.filterMap_append] at htasks hperm hperm'
    have ho : o = a.outcome c :=
      hsound ⟨sig, c, .asked o⟩ (List.mem_append_right l List.mem_cons_self) o (Or.inl rfl)
    refine ⟨?_, sound_set hsound ?_, ⟨calls, ?_, ?_⟩, ?_⟩
    · simp only [List.map_append, List.map_cons]
      exact htasks
    · rintro o' (ho' | ho')
      · exact absurd ho' (by simp)
      · rw [← Progress.kept.inj ho', ho]
    · rw [Session.calls_keep, hcalls]
    · rw [List.flatMap_append, List.flatMap_cons]
      exact hperm
    · -- A verdict that there is goes to the end of the puts.
      cases o with
      | none =>
        refine ⟨puts, hputs, ?_⟩
        rw [List.filterMap_append]
        exact hperm'
      | some v =>
        refine ⟨puts ++ [(sig, v)], ?_, ?_⟩
        · rw [Store.putAll_append, ← hputs]
          rfl
        · rw [List.filterMap_append]
          exact perm_insert_middle hperm' [(sig, v)]

theorem Inv.run (h : Inv a ms s P) (hrun : Run a workers P P') : Inv a ms s P' := by
  induction hrun with
  | refl => exact h
  | tail _ hstep ih => exact ih.step hstep

/-! ## The end of a run -/

section Final

variable (h : Inv a ms s P) (hkept : ∀ t ∈ P.tasks, ∃ o, t.progress = .kept o)

include h hkept

theorem Inv.progress_eq {t : Task} (ht : t ∈ P.tasks) :
    t.progress = .kept (a.outcome t.candidate) := by
  obtain ⟨o, ho⟩ := hkept t ht
  rw [ho, h.sound t ht o (Or.inr ho)]

/-- In the end, each candidate has the outcome of asking about it. -/
theorem Inv.results_eq : P.results = ms.map fun p => (p.1, a.outcome p.2) := by
  rw [results, ← h.tasks, List.map_map]
  refine List.map_congr_left fun t ht => ?_
  rw [Task.result, h.progress_eq hkept ht]
  rfl

theorem Inv.calls_perm : P.session.calls.Perm (s.calls ++ ms.flatMap fun p => a.asks p.2) := by
  obtain ⟨l, hcalls, hperm⟩ := h.calls
  have hflat : P.tasks.flatMap (Task.calls a) = ms.flatMap fun p => a.asks p.2 := by
    rw [← h.tasks, List.flatMap_map]
    refine List.flatMap_congr fun t ht => ?_
    rw [Task.calls, h.progress_eq hkept ht]
  rw [hcalls, ← hflat]
  exact hperm.append_left s.calls

theorem Inv.exists_puts :
    ∃ l, (P.session.store, P.session.disk) = Store.putAll l (s.store, s.disk) ∧
      l.Perm (Session.puts a ms) := by
  obtain ⟨l, hputs, hperm⟩ := h.puts
  have hfilter : P.tasks.filterMap Task.put? = Session.puts a ms := by
    rw [Session.puts, ← h.tasks, List.filterMap_map]
    refine List.filterMap_congr fun t ht => ?_
    rw [Task.put?, h.progress_eq hkept ht]
    cases hout : a.outcome t.candidate with
    | none => simp [hout]
    | some v => simp [hout]
  exact ⟨l, hputs, hfilter ▸ hperm⟩

end Final

end Pool

namespace Session

/-! ## The analysis in turn -/

/-- Judging in turn puts the verdicts in turn. -/
theorem judgeAll_putAll (a : Analyzer) (ms : List (String × Candidate)) (s : Session) :
    ((judgeAll a ms s).2.store, (judgeAll a ms s).2.disk) =
      Store.putAll (puts a ms) (s.store, s.disk) := by
  rw [judgeAll_eq_keepAll, keepAll_putAll, puts_eq_given]

theorem read_settle_perm {s : Session} {w : Workspace} {path : String}
    (hw : Store.Writable w path) (hused : Store.Used path w s.store s.disk)
    {l l' : List (String × Verdict)} (hperm : l.Perm l') (hnodup : (l.map (·.1)).Nodup)
    {s₁ s₂ : Session} (h₁ : (s₁.store, s₁.disk) = Store.putAll l (s.store, s.disk))
    (h₂ : (s₂.store, s₂.disk) = Store.putAll l' (s.store, s.disk)) :
    s₁.settle.disk.read path = s₂.settle.disk.read path := by
  have hread := hused.read_flush_perm hw hperm hnodup
  rw [← h₁, ← h₂] at hread
  exact hread

/-- **Schedule independence.**  However many workers there are, a run of them comes to an end; and
however their steps interleave, the end is that of the analysis in turn: the same findings and
counts, the same requests up to their order, the same memory, with every verdict that was put, and the
same bytes in the log.  For the last of these, the store was opened at a writable path, whatever bytes were
there, and has been used in any way since, with whatever faults.  A path is writable if a log can be kept at it
and written anew; so there is no directory and no link beside the log, where it is written anew, and the name
there is not too long. -/
theorem schedule_independent (a : Analyzer) (cs : List Candidate) (s : Session) (workers : Nat) :
    (∃ P, Pool.Run a workers (Pool.start (misses s.store cs) s) P ∧ Pool.Stuck a workers P) ∧
      ∀ P, Pool.Run a workers (Pool.start (misses s.store cs) s) P → Pool.Stuck a workers P →
        conclude s.store cs P.results = (s.analyze a cs).1 ∧
        P.session.settle.calls.Perm (s.analyze a cs).2.calls ∧
        (∀ sig, P.session.settle.store.get? sig = (s.analyze a cs).2.store.get? sig) ∧
        (s.store.isEnabled = true → ∀ sig c v, (sig, c) ∈ misses s.store cs →
          a.outcome c = some v → P.session.settle.store.get? sig = some v) ∧
        ∀ (w : Workspace) (path : String), Store.Writable w path →
          Store.Used path w s.store s.disk →
          P.session.settle.disk.read path = (s.analyze a cs).2.disk.read path := by
  refine ⟨Pool.exists_stuck _, fun P hrun hstuck => ?_⟩
  have hkept := Pool.kept_of_stuck hstuck
  have hinv := (Pool.inv_start a (misses s.store cs) s).run hrun
  obtain ⟨l, hputs, hperm⟩ := hinv.exists_puts hkept
  have hseq := judgeAll_putAll a (misses s.store cs) s
  have hnodup := nodup_puts a (nodup_misses s.store cs)
  have hnodup' : (l.map (·.1)).Nodup := (hperm.map (·.1)).nodup_iff.mpr hnodup
  have hstore := congrArg Prod.fst hputs
  have hstore' := congrArg Prod.fst hseq
  rw [analyze_eq]
  refine ⟨?_, ?_, fun sig => ?_, fun henabled sig c v hmem hv => ?_,
    fun w path hw hused => ?_⟩
  · rw [hinv.results_eq hkept, judgeAll_fst]
  · rw [calls_settle, calls_settle, calls_judgeAll]
    exact hinv.calls_perm hkept
  · rw [get?_settle, get?_settle]
    dsimp only at hstore hstore'
    rw [hstore, hstore']
    exact Store.get?_putAll_perm hperm hnodup' s.store s.disk
  · rw [get?_settle]
    dsimp only at hstore
    rw [hstore]
    exact Store.get?_putAll_of_mem l s.store s.disk henabled hnodup'
      (hperm.mem_iff.mpr (mem_puts hmem hv))
  · exact read_settle_perm hw hused hperm hnodup' hputs hseq

/-- A classifier that confirms everything, with one rule. -/
def sampleAnalyzer : Analyzer :=
  ⟨fun _ => .ok ⟨true, .high, "tainted", ""⟩, ⟨[⟨"R", "Rule", "", .high, none, []⟩]⟩⟩

def sampleCandidate : Candidate := ⟨"a.js", 1, "R", "Rule", "   1 | > f()", "f", "f()"⟩

/-- A working directory with a log that is no text. -/
def garbledSite : Workspace :=
  ⟨.dir [("ws", .dir [("log", .file 0)])], #[⟨#[0xff, 0x7b]⟩], ["ws"]⟩

/-- A session in which a verdict was put before and could not be saved: two bytes of its record are in the
log. -/
def garbledSession : Session :=
  let (_, store, disk) := (Store.openAt garbledSite "log").put garbledSite "old" .analysisError
    (.cut 2 Store.deviceFull)
  ⟨store, disk, []⟩

theorem writable_garbledSite : Store.Writable garbledSite "log" := by
  have hw : garbledSite.WellFormed := Workspace.wellFormed_of_isWellFormed (by decide +kernel)
  refine ⟨Store.logPlace_log hw rfl (Or.inr ⟨0, rfl⟩) rfl, "log", Store.named_log, ?_, by decide⟩
  rw [Store.tempPath_log]
  decide

theorem used_garbledSession :
    Store.Used "log" garbledSite garbledSession.store garbledSession.disk :=
  Store.Used.opened.put "old" .analysisError (.cut 2 Store.deviceFull)

theorem mem_misses_sampleCandidate : (sampleCandidate.signature, sampleCandidate) ∈
    misses garbledSession.store [sampleCandidate] := by
  refine mem_misses.mpr ⟨?_, List.find?_cons_of_pos (beq_self_eq_true _)⟩
  decide +kernel

/-- The log that there was is no text, and the last verdict before was cut off.  With three workers, the
verdict on a candidate is in memory in the end, and the log is that of the analysis in turn. -/
theorem schedule_independent_garbled :
    Store.Writable garbledSite "log" ∧
      Store.Used "log" garbledSite garbledSession.store garbledSession.disk ∧
      ∃ P, Pool.Run sampleAnalyzer 3
          (Pool.start (misses garbledSession.store [sampleCandidate]) garbledSession) P ∧
        Pool.Stuck sampleAnalyzer 3 P ∧
        P.session.settle.store.get? sampleCandidate.signature =
          some ⟨true, .high, "tainted", ""⟩ ∧
        P.session.settle.disk.read "log" =
          (garbledSession.analyze sampleAnalyzer [sampleCandidate]).2.disk.read "log" := by
  obtain ⟨⟨P, hrun, hstuck⟩, hall⟩ :=
    schedule_independent sampleAnalyzer [sampleCandidate] garbledSession 3
  obtain ⟨-, -, -, hput, hread⟩ := hall P hrun hstuck
  exact ⟨writable_garbledSite, used_garbledSession, P, hrun, hstuck,
    hput (by decide +kernel) _ _ _ mem_misses_sampleCandidate rfl,
    hread garbledSite "log" writable_garbledSite used_garbledSession⟩

end Session

end SinkAudit

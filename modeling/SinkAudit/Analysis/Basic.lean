import SinkAudit.Classifier.Basic
import SinkAudit.Report.Basic
import SinkAudit.Store.Basic

/-!
# Analysis

Candidates are judged once for each signature: from the store if it has a verdict, otherwise by the
classifier, whose verdict is then put into the store.  A candidate that cannot be judged gets the
verdict `Verdict.analysisError`, which is not kept, so a later run asks again.

* `Session`: a store in its workspace, with the requests that were made.
* `Session.judge`: the verdict on one candidate that the store does not have.
* `Session.analyze`: the findings and the counts for a list of candidates.
-/

namespace SinkAudit

/-- A store in its workspace, with the requests made so far. -/
structure Session where
  store : Store
  disk : Workspace
  calls : List Request := []

/-- Who judges, and by which rules. -/
structure Analyzer where
  classifier : Classifier
  catalog : Catalog

/-- The findings of a run with its counts. -/
structure Outcome where
  findings : List Finding
  stats : Stats

/-- The request for a candidate; its rule has to be in the catalog. -/
def Analyzer.request (a : Analyzer) (c : Candidate) : Except ClassifyError Request :=
  match a.catalog.lookup c.ruleId with
  | .ok r => .ok (.ofCandidate c r)
  | .error e => .error (.request e.message)

/-- The pairs whose first component has not occurred before. -/
def firstOccurrences : List String → List (String × Candidate) → List (String × Candidate)
  | _, [] => []
  | seen, (k, c) :: r =>
    if seen.contains k then firstOccurrences seen r
    else (k, c) :: firstOccurrences (k :: seen) r

namespace Session

/-- Asks the classifier about a candidate and keeps its verdict.  The result says whether there
was one. -/
def judge (a : Analyzer) (sig : String) (c : Candidate) (s : Session) : Option Verdict × Session :=
  match a.request c with
  | .error _ => (none, s)
  | .ok q =>
    let s := { s with calls := s.calls ++ [q] }
    match a.classifier q with
    | .error _ => (none, s)
    | .ok v =>
      let (_, store, disk) := s.store.put s.disk sig v
      (some v, { s with store := store, disk := disk })

/-- Judges candidates in turn. -/
def judgeAll (a : Analyzer) : List (String × Candidate) → Session →
    List (String × Option Verdict) × Session
  | [], s => ([], s)
  | (sig, c) :: r, s =>
    let (v, s) := s.judge a sig c
    let (vs, s) := judgeAll a r s
    ((sig, v) :: vs, s)

/-- Writes the log anew if needed; a failure to do so is no failure of the run. -/
def settle (s : Session) : Session :=
  let (_, store, disk) := s.store.flush s.disk
  { s with store := store, disk := disk }

/-- The verdict on a candidate, by its signature, from those of a run. -/
def verdictOf (verdicts : List (String × Verdict)) (sig : String) : Option Verdict :=
  (verdicts.find? fun p => p.1 == sig).map (·.2)

/-- The findings among candidates, in their order. -/
def findings (verdicts : List (String × Verdict)) (cs : List (String × Candidate)) : List Finding :=
  cs.filterMap fun p => (verdictOf verdicts p.1).bind (Finding.confirm p.2)

/-- Judges a list of candidates. -/
def analyze (a : Analyzer) (cs : List Candidate) (s : Session) : Outcome × Session :=
  let signed := cs.map fun c => (c.signature, c)
  let unique := firstOccurrences [] signed
  let hits := unique.filterMap fun p => (s.store.get? p.1).map fun v => (p.1, v)
  let misses := unique.filter fun p => (s.store.get? p.1).isNone
  let (judged, s) := judgeAll a misses s
  let verdicts := hits ++ judged.map fun p => (p.1, p.2.getD Verdict.analysisError)
  let found := findings verdicts signed
  let classified := (judged.filter fun p => p.2.isSome).length
  (⟨found,
    { candidates := cs.length, unique := unique.length, cacheHits := hits.length,
      classified := classified, failures := judged.length - classified,
      confirmed := found.length }⟩,
   s.settle)

/-- The verdict on one candidate. -/
def analyzeOne (a : Analyzer) (c : Candidate) (s : Session) : Verdict × Session :=
  match s.store.get? c.signature with
  | some v => (v, s)
  | none =>
    let (v, s) := s.judge a c.signature c
    (v.getD Verdict.analysisError, s)

end Session

end SinkAudit

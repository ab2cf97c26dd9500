import SinkAudit.Proofs.Scan.Content
import SinkAudit.Proofs.Workspace.Listing
import SinkAudit.Scan.Walk

/-!
# The candidates of a directory

A walk without ignore files lists all files of a tree in the order of their paths, except that it
cannot enter a directory whose path is too long; but a file in there has a path that is longer still
and could not be opened.  So the scan of a directory is the scans of its files, one after the other; it
fails where one of them does, and otherwise its candidates are in the order of their paths and lines.

* `Walk.filter_canOpen_files`: the files of a walk that can be opened.
* `Scanner.targets`, `Scanner.scanTree_eq`: a scan as the scans of the files.
* `Scanner.pairwise_scanTargets`: the order of the candidates.
-/

namespace SinkAudit

open Std
open SinkAudit.Path (below)

namespace Walk

/-- Whether the path of a file is short enough to open it. -/
def canOpen (f : String × Nat) : Bool :=
  f.1.utf8ByteSize ≤ Workspace.maxPath

/-- The file of a tree at a directory, with its path. -/
def located (dir : String) (f : List String × Nat) : String × Nat :=
  (below dir f.1, f.2)

section

variable (w : Workspace) (own : List IgnoreLevel)

mutual

/-- A walk that ignores nothing meets the files of a tree, as far as they can be opened. -/
theorem filter_canOpen_files :
    ∀ (n : Node) (path : String), n.isTidy = true → path ≠ "" →
      (files w none own path n).filter canOpen =
        (n.files.map (located path)).filter canOpen
  | .file id, path, _, _ => by
    rw [files, Node.files]
    rfl
  | .link t, path, _, _ => by
    rw [files, Node.files]
    rfl
  | .dir es, path, htidy, hpath => by
    rw [files]
    by_cases hlong : Workspace.maxPath < path.utf8ByteSize
    · -- every path below is too long as well
      have hnone : ∀ f ∈ (Node.dir es).files.map (located path), ¬canOpen f = true := by
        intro f hf
        obtain ⟨g, hg, rfl⟩ := List.mem_map.mp hf
        have hsize := Path.utf8ByteSize_le_below hpath
          (Node.isEntryName_of_mem_files (.dir es) htidy g hg)
        show ¬decide ((below path g.1).utf8ByteSize ≤ Workspace.maxPath) = true
        rw [decide_eq_true_eq]
        omega
      rw [if_pos hlong, List.filter_nil, List.filter_eq_nil_iff.mpr hnone]
    · rw [Node.isTidy] at htidy
      rw [if_neg hlong, Node.files]
      exact filter_canOpen_entryFiles es path htidy hpath

/-- The same for the entries of a directory. -/
theorem filter_canOpen_entryFiles :
    ∀ (es : List (String × Node)) (path : String), Node.entriesTidy es = true → path ≠ "" →
      (entryFiles w none own path es).filter canOpen =
        ((Node.entryFiles es).map (located path)).filter canOpen
  | [], path, _, _ => by
    rw [entryFiles, Node.entryFiles]
    rfl
  | (k, n) :: es, path, htidy, hpath => by
    obtain ⟨hk, -, hn, hes⟩ := Node.entriesTidy_cons.mp htidy
    have hbelow : (n.files.map fun f => (k :: f.1, f.2)).map (located path) =
        n.files.map (located (Path.join path k)) := by
      rw [List.map_map]
      rfl
    rw [entryFiles, Node.entryFiles, List.map_append, List.filter_append, hbelow]
    rw [List.filter_append, filter_canOpen_files n (Path.join path k) hn (Path.join_ne_empty hpath hk),
      filter_canOpen_entryFiles es path hes hpath]

end

end

end Walk

namespace Scanner

/-- The candidates of a file by its bytes; one that is not text has none. -/
def scanBytes (s : Scanner) (path : String) (bytes : ByteArray) : Except Error (List Candidate) :=
  match String.fromUTF8? bytes with
  | some text => s.scanContent path text
  | none => .ok []

/-- The files below a directory that a scan reads, by their names: those with an extension that is
scanned and a path that can be opened.  There is none below a mere dash. -/
def targets (s : Scanner) (root : String) (n : Node) : List (List String × Nat) :=
  if Path.parts root == [.name "-"] then []
  else n.files.filter fun f => s.isEligible (below root f.1) && Walk.canOpen (Walk.located root f)

/-- The candidates of these files. -/
def scanTargets (s : Scanner) (w : Workspace) (root : String) (n : Node) :
    Except Error (List Candidate) :=
  gather (fun f => s.scanBytes (below root f.1) (w.content f.2)) (s.targets root n)

theorem scanFile_of_canOpen {s : Scanner} {w : Workspace} {f : String × Nat}
    (h : Walk.canOpen f = true) : s.scanFile w f = s.scanBytes f.1 (w.content f.2) := by
  rw [Walk.canOpen, decide_eq_true_eq] at h
  rw [scanFile, if_neg (by omega)]
  rfl

/-- Files that cannot be opened count for nothing. -/
theorem gather_scanFile (s : Scanner) (w : Workspace) (fs : List (String × Nat)) :
    gather (s.scanFile w) fs =
      gather (fun f => s.scanBytes f.1 (w.content f.2)) (fs.filter Walk.canOpen) := by
  induction fs with
  | nil => rfl
  | cons f fs ih =>
    rw [gather, ih]
    by_cases hopen : Walk.canOpen f = true
    · rw [List.filter_cons_of_pos hopen, gather, scanFile_of_canOpen hopen]
    · have hnone : s.scanFile w f = .ok [] := by
        rw [Walk.canOpen, decide_eq_true_eq] at hopen
        rw [scanFile, if_pos (by omega)]
      rw [List.filter_cons_of_neg hopen, hnone]
      exact congrFun Except.map_id _

variable {s : Scanner} {w : Workspace} {root : String} {place : Place} {es : List (String × Node)}

theorem ne_empty_of_node {r : Place × Node} (h : w.node root = .ok r) : root ≠ "" := by
  rintro rfl
  have hfault : w.node "" = .error .notFound := rfl
  rw [hfault] at h
  cases h

/-- A scan is the scans of its files. -/
theorem scanTree_eq (hoff : s.config.respectIgnoreFiles = false)
    (hnode : w.node root = .ok (place, .dir es)) (htidy : (Node.dir es).isTidy = true) :
    s.scanTree w root = s.scanTargets w root (.dir es) := by
  have hfiles := Walk.filter_canOpen_files w [] (.dir es) root htidy (ne_empty_of_node hnode)
  rw [scanTree, hnode]
  dsimp only
  rw [gather_scanFile, files, scanTargets, targets, hoff]
  split
  · rfl
  · dsimp only
    rw [if_neg Bool.false_ne_true]
    have hrest : ((Walk.files w none [] root (.dir es)).filter fun f => s.isEligible f.1).filter
        Walk.canOpen = ((Node.dir es).files.map (Walk.located root)).filter
          fun f => s.isEligible f.1 && Walk.canOpen f := by
      rw [← List.filter_filter, ← hfiles, List.filter_filter, List.filter_filter]
      exact List.filter_congr fun f _ => Bool.and_comm _ _
    rw [hrest, List.filter_map, gather_map]
    rfl

/-- The files that a scan reads are the regular files of the tree with an extension that is scanned
and a path that can be opened. -/
theorem mem_targets_iff {n : Node} (htidy : n.isTidy = true) {names : List String} {id : Nat} :
    (names, id) ∈ s.targets root n ↔
      Path.parts root ≠ [.name "-"] ∧ n.get? names = some (.file id) ∧
        s.isEligible (below root names) = true ∧
        (below root names).utf8ByteSize ≤ Workspace.maxPath := by
  rw [targets]
  by_cases hdash : Path.parts root = [.name "-"]
  · simp [hdash]
  · rw [if_neg (by simpa using hdash), List.mem_filter, Node.mem_files_iff n names id htidy,
      Bool.and_eq_true, Walk.canOpen, decide_eq_true_eq, Walk.located]
    simp [hdash]

/-! ## The order of the candidates -/

/-- The candidates of a file by its bytes are those of a text. -/
theorem eq_sightings_of_scanBytes {path : String} {bytes : ByteArray} {cs : List Candidate}
    (h : s.scanBytes path bytes = .ok cs) : cs = [] ∨ ∃ text, cs = s.sightings path text := by
  rw [scanBytes] at h
  split at h
  case h_1 text _ => exact Or.inr ⟨text, (scanContent_eq_ok_iff.mp h).2⟩
  case h_2 => exact Or.inl (Except.ok.inj h).symm

theorem file_of_mem_scanBytes {path : String} {bytes : ByteArray} {cs : List Candidate}
    (h : s.scanBytes path bytes = .ok cs) {c : Candidate} (hc : c ∈ cs) : c.file = path := by
  rcases eq_sightings_of_scanBytes h with rfl | ⟨text, rfl⟩
  · exact absurd hc List.not_mem_nil
  · obtain ⟨index, line, -, hsighting⟩ := mem_sightings.mp hc
    obtain ⟨-, rule, pattern, -, rfl⟩ := sighting?_eq_some_iff.mp hsighting
    rfl

/-- A file fails to be scanned in one way only. -/
theorem eq_overflow_of_scanFile {f : String × Nat} {e : Error} (h : s.scanFile w f = .error e) :
    e = .overflow := by
  rw [scanFile] at h
  split at h
  · cases h
  · split at h
    · exact eq_overflow_of_scanContent h
    · cases h

/-- So does a directory that is there. -/
theorem eq_overflow_of_scanTree (hnode : w.node root = .ok (place, .dir es)) {e : Error}
    (h : s.scanTree w root = .error e) : e = .overflow := by
  rw [scanTree, hnode] at h
  obtain ⟨f, -, hf⟩ := exists_of_gather_error h
  exact eq_overflow_of_scanFile hf

end Scanner

/-- The order of candidates: by their paths, part by part, and then by their lines. -/
def Candidate.order (c d : Candidate) : Ordering :=
  (Path.compare c.file d.file).then (compare c.line d.line)

/-- Candidates in strict order are at different places. -/
theorem Candidate.place_ne_of_order {c d : Candidate} (h : c.order d = .lt) :
    (c.file, c.line) ≠ (d.file, d.line) := by
  intro heq
  obtain ⟨hfile, hline⟩ := Prod.mk.inj heq
  have hself : Path.compare d.file d.file = .eq := ReflCmp.compare_self
  rw [order, hfile, hline, hself, Nat.compare_eq_eq.mpr rfl] at h
  exact absurd h (by decide)

namespace Scanner

variable {s : Scanner} {root : String}

/-- The candidates of one file are in the order of their lines. -/
theorem pairwise_scanBytes {path : String} {bytes : ByteArray} {cs : List Candidate}
    (h : s.scanBytes path bytes = .ok cs) : cs.Pairwise fun c d => c.order d = .lt := by
  have hlines : cs.Pairwise fun c d => c.line < d.line := by
    rcases eq_sightings_of_scanBytes h with rfl | ⟨text, rfl⟩
    · exact List.Pairwise.nil
    · exact pairwise_sightings s path text
  refine hlines.imp_of_mem fun {c d} hc hd hlt => ?_
  have hself : Path.compare path path = .eq := ReflCmp.compare_self
  rw [Candidate.order, file_of_mem_scanBytes h hc, file_of_mem_scanBytes h hd, hself, Ordering.then]
  exact Nat.compare_eq_lt.mpr hlt

/-- The files that a scan reads come in the order of their paths. -/
theorem pairwise_targets (s : Scanner) (hroot : root ≠ "") {n : Node} (htidy : n.isTidy = true) :
    (s.targets root n).Pairwise fun f g =>
      Path.compare (below root f.1) (below root g.1) = .lt := by
  rw [targets]
  split
  · exact List.Pairwise.nil
  · refine ((Node.pairwise_files n htidy).imp_of_mem fun {f g} hf hg hfg => ?_).filter _
    rw [Path.compare_below hroot (Node.isEntryName_of_mem_files n htidy f hf)
      (Node.isEntryName_of_mem_files n htidy g hg)]
    exact hfg

/-- The candidates of a directory are in the order of their paths and lines. -/
theorem pairwise_scanTargets {w : Workspace} (hroot : root ≠ "") {n : Node}
    (htidy : n.isTidy = true) {cs : List Candidate} (h : s.scanTargets w root n = .ok cs) :
    cs.Pairwise fun c d => c.order d = .lt := by
  obtain ⟨g, hg, rfl⟩ := exists_of_gather h
  rw [List.pairwise_flatMap]
  refine ⟨fun f hf => pairwise_scanBytes (hg f hf), ?_⟩
  refine (pairwise_targets s hroot htidy).imp_of_mem fun {f f'} hf hf' hlt c hc d hd => ?_
  rw [Candidate.order, file_of_mem_scanBytes (hg f hf) hc, file_of_mem_scanBytes (hg f' hf') hd, hlt]
  rfl

end Scanner

end SinkAudit

import Mathlib.Data.List.Nodup
import SinkAudit.Proofs.Workspace.Files
import SinkAudit.Proofs.Workspace.PathOrder

/-!
# The files of a tree

A tree is *tidy* if the entries of every directory have proper names and stand in their order, each
name once.  A walk that takes the entries of a tidy tree one after the other, with all that is below
one before the next, comes to the files in the lexicographic order of their names; so a directory
`a` and all its files come before a file `a.js`.

* `Node.files`: the files in the order of such a walk, each by the names that lead to it.
* `Node.mem_files_iff`: these are all the files of the tree.
* `Node.pairwise_files`: their order.
* `Workspace.isWellFormed`: whether a tidy workspace is well-formed, told from its files.
-/

namespace SinkAudit

open Std

namespace Node

mutual

/-- Whether every directory has its entries in the order of their names. -/
def isTidy : Node → Bool
  | file _ => true
  | link _ => true
  | dir es => entriesTidy es

/-- The same for the entries of a directory. -/
def entriesTidy : List (String × Node) → Bool
  | [] => true
  | (k, n) :: es =>
    Path.isEntryName k && es.all (fun e => k < e.1) && n.isTidy && entriesTidy es

end

mutual

/-- The files of a tree, each by the names that lead to it. -/
def files : Node → List (List String × Nat)
  | file id => [([], id)]
  | link _ => []
  | dir es => entryFiles es

/-- The files of the entries of a directory. -/
def entryFiles : List (String × Node) → List (List String × Nat)
  | [] => []
  | (k, n) :: es => (n.files.map fun f => (k :: f.1, f.2)) ++ entryFiles es

end

theorem entriesTidy_cons {k : String} {n : Node} {es : List (String × Node)} :
    entriesTidy ((k, n) :: es) = true ↔
      Path.isEntryName k = true ∧ (∀ e ∈ es, k < e.1) ∧ n.isTidy = true ∧ entriesTidy es = true := by
  simp only [entriesTidy, Bool.and_eq_true, List.all_eq_true, decide_eq_true_eq, and_assoc]

/-- A file of a directory is below one of its entries. -/
theorem exists_entry_of_mem {es : List (String × Node)} {f : List String × Nat}
    (h : f ∈ entryFiles es) : ∃ k ls, f.1 = k :: ls ∧ ∃ e ∈ es, e.1 = k := by
  induction es with
  | nil => exact absurd h List.not_mem_nil
  | cons e es ih =>
    obtain ⟨k, n⟩ := e
    rw [entryFiles, List.mem_append] at h
    rcases h with h | h
    · obtain ⟨g, -, rfl⟩ := List.mem_map.mp h
      exact ⟨k, g.1, rfl, (k, n), List.mem_cons_self, rfl⟩
    · obtain ⟨l, ls, hf, e, he, hl⟩ := ih h
      exact ⟨l, ls, hf, e, List.mem_cons_of_mem _ he, hl⟩

mutual

/-- The files are those that names lead to. -/
theorem mem_files_iff :
    ∀ (n : Node) (ks : List String) (id : Nat), n.isTidy = true →
      ((ks, id) ∈ n.files ↔ n.get? ks = some (file id))
  | file i, ks, id, _ => by
    rw [files, List.mem_singleton, Prod.mk.injEq]
    cases ks with
    | nil => simp [eq_comm]
    | cons k ls => simp
  | link t, ks, id, _ => by
    rw [files]
    cases ks with
    | nil => simp
    | cons k ls => simp
  | dir es, ks, id, h => by
    rw [isTidy] at h
    rw [files]
    cases ks with
    | nil =>
      rw [get?_nil]
      refine iff_of_false (fun hmem => ?_) (by simp)
      obtain ⟨k, ls, hf, -⟩ := exists_entry_of_mem hmem
      exact absurd hf (by simp)
    | cons k ls => exact mem_entryFiles_iff es k ls id h

/-- The same for the entries of a directory. -/
theorem mem_entryFiles_iff :
    ∀ (es : List (String × Node)) (k : String) (ls : List String) (id : Nat),
      entriesTidy es = true →
      ((k :: ls, id) ∈ entryFiles es ↔ (dir es).get? (k :: ls) = some (file id))
  | [], _, _, _, _ => by simp [entryFiles, get?_dir_cons]
  | (l, n) :: es, k, ls, id, h => by
    obtain ⟨-, hlater, hn, hes⟩ := entriesTidy_cons.mp h
    have hhere := mem_files_iff n ls id hn
    have hrest := mem_entryFiles_iff es k ls id hes
    rw [entryFiles, List.mem_append, get?_dir_cons, child?_cons]
    by_cases hl : l = k
    · subst hl
      -- No later entry has this name.
      have hnot : (l :: ls, id) ∉ entryFiles es := by
        intro hmem
        obtain ⟨k', ls', hf, e, he, hk⟩ := exists_entry_of_mem hmem
        obtain ⟨rfl, -⟩ := List.cons.inj hf
        exact String.lt_irrefl _ (hk ▸ hlater e he)
      rw [if_pos rfl, Option.bind_some, ← hhere]
      simp [hnot]
    · rw [if_neg hl, ← get?_dir_cons, ← hrest]
      constructor
      · rintro (hmem | hmem)
        · obtain ⟨g, -, hg⟩ := List.mem_map.mp hmem
          exact absurd (List.cons.inj (Prod.mk.inj hg).1).1 hl
        · exact hmem
      · exact Or.inr

end

mutual

theorem isEntryName_of_mem_files :
    ∀ n : Node, n.isTidy = true → ∀ f ∈ n.files, ∀ k ∈ f.1, Path.isEntryName k = true
  | file i, _, f, hf, k, hk => by
    rw [files, List.mem_singleton] at hf
    rw [hf] at hk
    exact absurd hk List.not_mem_nil
  | link t, _, f, hf, k, hk => by
    rw [files] at hf
    exact absurd hf List.not_mem_nil
  | dir es, h, f, hf, k, hk => by
    rw [isTidy] at h
    rw [files] at hf
    exact isEntryName_of_mem_entryFiles es h f hf k hk

theorem isEntryName_of_mem_entryFiles :
    ∀ es : List (String × Node), entriesTidy es = true →
      ∀ f ∈ entryFiles es, ∀ k ∈ f.1, Path.isEntryName k = true
  | [], _, f, hf, _, _ => absurd hf List.not_mem_nil
  | (l, n) :: es, h, f, hf, k, hk => by
    obtain ⟨hl, -, hn, hes⟩ := entriesTidy_cons.mp h
    rw [entryFiles, List.mem_append] at hf
    rcases hf with hf | hf
    · obtain ⟨g, hg, rfl⟩ := List.mem_map.mp hf
      rcases List.mem_cons.mp hk with rfl | hk
      · exact hl
      · exact isEntryName_of_mem_files n hn g hg k hk
    · exact isEntryName_of_mem_entryFiles es hes f hf k hk

end

/-- The order of files by the names that lead to them. -/
def Before (f g : List String × Nat) : Prop :=
  List.compareLex compare f.1 g.1 = .lt

mutual

/-- The files of a tidy tree are in the order of their names. -/
theorem pairwise_files : ∀ n : Node, n.isTidy = true → n.files.Pairwise Before
  | file i, _ => by
    rw [files]
    exact List.pairwise_singleton _ _
  | link t, _ => by
    rw [files]
    exact List.Pairwise.nil
  | dir es, h => by
    rw [isTidy] at h
    rw [files]
    exact pairwise_entryFiles es h

theorem pairwise_entryFiles :
    ∀ es : List (String × Node), entriesTidy es = true → (entryFiles es).Pairwise Before
  | [], _ => List.Pairwise.nil
  | (k, n) :: es, h => by
    obtain ⟨-, hlater, hn, hes⟩ := entriesTidy_cons.mp h
    rw [entryFiles, List.pairwise_append]
    refine ⟨?_, pairwise_entryFiles es hes, ?_⟩
    · -- below one entry the name of the entry does not matter
      rw [List.pairwise_map]
      refine (pairwise_files n hn).imp fun {f g} hfg => ?_
      have hself : compare k k = .eq := ReflCmp.compare_self
      show List.compareLex compare (k :: f.1) (k :: g.1) = .lt
      rw [List.compareLex_cons_cons, hself]
      exact hfg
    · -- and between two entries nothing else does
      intro f hf g hg
      obtain ⟨f', -, rfl⟩ := List.mem_map.mp hf
      obtain ⟨l, ls, hgl, e, he, rfl⟩ := exists_entry_of_mem hg
      have hlt : compare k e.1 = .lt := by
        rw [Path.compare_string_eq, if_pos (hlater e he)]
      show List.compareLex compare (k :: f'.1) g.1 = .lt
      rw [hgl, List.compareLex_cons_cons, hlt]
      rfl

end

end Node

/-- Whether a tree is tidy, every file has a content and no two files share one. -/
def Workspace.isWellFormed (w : Workspace) : Bool :=
  w.root.isTidy && w.root.files.all (fun f => decide (f.2 < w.contents.size)) &&
    decide (w.root.files.map (·.2)).Nodup

theorem Workspace.wellFormed_of_isWellFormed {w : Workspace} (h : w.isWellFormed = true) :
    w.WellFormed := by
  rw [isWellFormed, Bool.and_eq_true, Bool.and_eq_true, List.all_eq_true, decide_eq_true_eq] at h
  obtain ⟨⟨htidy, hbound⟩, hdistinct⟩ := h
  have hmem : ∀ p i, w.nodeAt? p = some (.file i) → (p.reverse, i) ∈ w.root.files := fun p i hp =>
    (Node.mem_files_iff _ _ _ htidy).mpr hp
  refine ⟨fun p i hp => of_decide_eq_true (hbound _ (hmem p i hp)), fun p q i hp hq => ?_⟩
  have hsame := List.inj_on_of_nodup_map hdistinct (hmem p i hp) (hmem q i hq) rfl
  exact List.reverse_inj.mp (Prod.mk.inj hsame).1

end SinkAudit

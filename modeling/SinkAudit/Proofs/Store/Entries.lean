import SinkAudit.Store.Log

/-!
# Entries as a map

The entries of a store are a list, and what counts of it is the map from signatures to verdicts.
`insert` changes that map at one place whatever the list is (`get?_insert`).  It also keeps the list
in the order of the signatures, and an ordered list is determined by its map (`ext_of_sorted`); so
two histories that end with the same map end with the same list, and hence with the same log.

* `Sorted`: the signatures increase, so none occurs twice.
* `get?_insert`, `get?_foldl_insert`, `sorted_insert`, `ext_of_sorted`.
* `foldl_insert_of_sorted`: an ordered list is rebuilt by inserting its entries in turn.
-/

namespace SinkAudit

namespace Entries

/-- The signatures increase. -/
def Sorted (es : Entries) : Prop := es.Pairwise fun a b => a.1 < b.1

theorem sorted_nil : Sorted [] := List.Pairwise.nil

theorem sorted_cons {k : String} {v : Verdict} {es : Entries} :
    Sorted ((k, v) :: es) ↔ (∀ e ∈ es, k < e.1) ∧ Sorted es :=
  List.pairwise_cons

@[simp] theorem get?_nil (sig : String) : get? sig [] = none := rfl

theorem get?_cons (sig k : String) (v : Verdict) (es : Entries) :
    get? sig ((k, v) :: es) = if k = sig then some v else get? sig es := rfl

/-- A verdict that is found is an entry. -/
theorem mem_of_get?_eq_some {sig : String} {v : Verdict} :
    ∀ {es : Entries}, es.get? sig = some v → (sig, v) ∈ es
  | [], h => by rw [get?_nil] at h; exact absurd h (by simp)
  | (k, u) :: es, h => by
    rw [get?_cons] at h
    split at h
    · rename_i hk
      rw [hk, Option.some.inj h]
      exact List.mem_cons_self
    · exact List.mem_cons_of_mem _ (mem_of_get?_eq_some h)

/-- Nothing is found below the smallest signature. -/
theorem get?_eq_none_of_lt {sig : String} :
    ∀ {es : Entries}, (∀ e ∈ es, sig < e.1) → es.get? sig = none
  | [], _ => rfl
  | (k, v) :: es, h => by
    have hk : sig < k := h (k, v) List.mem_cons_self
    have hne : k ≠ sig := by
      rintro rfl
      exact String.lt_irrefl k hk
    rw [get?_cons, if_neg hne]
    exact get?_eq_none_of_lt fun e he => h e (List.mem_cons_of_mem _ he)

/-! ## Insertion -/

/-- Inserting changes the map at one signature. -/
theorem get?_insert (sig k : String) (v : Verdict) (es : Entries) :
    (es.insert sig v).get? k = if k = sig then some v else es.get? k := by
  induction es with
  | nil =>
    rw [insert, get?_cons]
    simp only [eq_comm]
  | cons e es ih =>
    obtain ⟨l, u⟩ := e
    rw [insert]
    by_cases hl : l = sig
    · rw [if_pos hl, get?_cons, get?_cons, hl]
      by_cases hk : k = sig
      · rw [if_pos hk.symm, if_pos hk]
      · rw [if_neg (Ne.symm hk), if_neg hk, if_neg (Ne.symm hk)]
    · rw [if_neg hl]
      split
      · rw [get?_cons]
        simp only [eq_comm]
      · rw [get?_cons, get?_cons, ih]
        by_cases hk : k = sig
        · rw [if_pos hk, if_pos hk, if_neg (fun h => hl (h.trans hk))]
        · rw [if_neg hk, if_neg hk]

@[simp] theorem get?_insert_self (sig : String) (v : Verdict) (es : Entries) :
    (es.insert sig v).get? sig = some v := by
  rw [get?_insert, if_pos rfl]

theorem mem_insert {sig : String} {v : Verdict} {es : Entries} {e : String × Verdict}
    (h : e ∈ es.insert sig v) : e = (sig, v) ∨ e ∈ es := by
  induction es with
  | nil => exact Or.inl (List.mem_singleton.mp h)
  | cons f es ih =>
    obtain ⟨l, u⟩ := f
    rw [insert] at h
    split at h
    · rcases List.mem_cons.mp h with rfl | h
      · exact Or.inl rfl
      · exact Or.inr (List.mem_cons_of_mem _ h)
    · split at h
      · rcases List.mem_cons.mp h with rfl | h
        · exact Or.inl rfl
        · exact Or.inr h
      · rcases List.mem_cons.mp h with rfl | h
        · exact Or.inr List.mem_cons_self
        · rcases ih h with rfl | h
          · exact Or.inl rfl
          · exact Or.inr (List.mem_cons_of_mem _ h)

/-- Of two different strings, the first is smaller if the second is not. -/
theorem lt_of_not_lt {s t : String} (hne : s ≠ t) (h : ¬ t < s) : s < t :=
  Decidable.byContradiction fun hlt => hne (String.le_antisymm h hlt)

/-- Inserting keeps the order. -/
theorem sorted_insert {es : Entries} (sig : String) (v : Verdict) (h : Sorted es) :
    Sorted (es.insert sig v) := by
  induction es with
  | nil => exact sorted_cons.mpr ⟨fun e he => absurd he List.not_mem_nil, sorted_nil⟩
  | cons f es ih =>
    obtain ⟨l, u⟩ := f
    obtain ⟨hlt, hes⟩ := sorted_cons.mp h
    rw [insert]
    split
    · rename_i hl
      rw [hl] at hlt
      exact sorted_cons.mpr ⟨hlt, hes⟩
    · rename_i hl
      split
      · rename_i hsig
        refine sorted_cons.mpr ⟨fun e he => ?_, h⟩
        rcases List.mem_cons.mp he with rfl | he
        · exact hsig
        · exact String.lt_trans hsig (hlt e he)
      · rename_i hsig
        refine sorted_cons.mpr ⟨fun e he => ?_, ih hes⟩
        rcases mem_insert he with rfl | he
        · exact lt_of_not_lt hl hsig
        · exact hlt e he

theorem sorted_foldl_insert :
    ∀ (l : List (String × Verdict)) {es : Entries}, Sorted es →
      Sorted (l.foldl (fun m e => m.insert e.1 e.2) es)
  | [], _, h => h
  | e :: l, _, h => sorted_foldl_insert l (sorted_insert e.1 e.2 h)

/-! ## The list is determined by the map -/

/-- Two ordered lists with the same map are the same. -/
theorem ext_of_sorted : ∀ {es fs : Entries}, Sorted es → Sorted fs →
    (∀ sig, es.get? sig = fs.get? sig) → es = fs
  | [], [], _, _, _ => rfl
  | [], (k, v) :: fs, _, _, h => by
    have hk := h k
    rw [get?_nil, get?_cons, if_pos rfl] at hk
    exact absurd hk (by simp)
  | (k, v) :: es, [], _, _, h => by
    have hk := h k
    rw [get?_nil, get?_cons, if_pos rfl] at hk
    exact absurd hk (by simp)
  | (k, v) :: es, (l, u) :: fs, hes, hfs, h => by
    obtain ⟨hk, hes'⟩ := sorted_cons.mp hes
    obtain ⟨hl, hfs'⟩ := sorted_cons.mp hfs
    have hv := h k
    have hu := h l
    rw [get?_cons, if_pos rfl] at hv
    rw [get?_cons l l, if_pos rfl] at hu
    -- the first signatures agree: each of the two occurs in the other list
    have hkl : k = l := by
      rcases List.mem_cons.mp (mem_of_get?_eq_some hv.symm) with he | he
      · exact (Prod.mk.inj he).1
      · rcases List.mem_cons.mp (mem_of_get?_eq_some hu) with hf | hf
        · exact (Prod.mk.inj hf).1.symm
        · exact absurd (String.lt_trans (hl _ he) (hk _ hf)) (String.lt_irrefl l)
    subst hkl
    rw [get?_cons, if_pos rfl] at hv
    rw [Option.some.inj hv]
    refine congrArg _ (ext_of_sorted hes' hfs' fun sig => ?_)
    by_cases hsig : k = sig
    · rw [← hsig, get?_eq_none_of_lt hk, get?_eq_none_of_lt hl]
    · have hs := h sig
      rwa [get?_cons, get?_cons, if_neg hsig, if_neg hsig] at hs

/-- Of the verdicts that are inserted in turn, the last one for a signature counts. -/
theorem get?_foldl_insert (sig : String) (fs es : Entries) :
    (fs.foldl (fun m e => m.insert e.1 e.2) es).get? sig =
      (fs.reverse.lookup sig).or (es.get? sig) := by
  induction fs generalizing es with
  | nil => rfl
  | cons e fs ih =>
    rw [List.foldl_cons, ih, get?_insert, List.reverse_cons, List.lookup_append, Option.or_assoc]
    congr 1
    by_cases hsig : sig = e.1
    · rw [if_pos hsig, hsig, List.lookup_cons_self, Option.some_or]
    · rw [if_neg hsig, List.lookup_cons, beq_eq_false_iff_ne.mpr hsig]
      rfl

/-- An entry beyond all others is put at the end. -/
theorem insert_of_forall_lt {es : Entries} {sig : String} (v : Verdict)
    (h : ∀ e ∈ es, e.1 < sig) : es.insert sig v = es ++ [(sig, v)] := by
  induction es with
  | nil => rfl
  | cons f es ih =>
    obtain ⟨l, u⟩ := f
    have hl : l < sig := h (l, u) List.mem_cons_self
    have hne : l ≠ sig := by
      rintro rfl
      exact String.lt_irrefl l hl
    have hnlt : ¬ sig < l := fun hlt => String.lt_irrefl l (String.lt_trans hl hlt)
    rw [insert, if_neg hne, if_neg hnlt, ih fun e he => h e (List.mem_cons_of_mem _ he),
      List.cons_append]

/-- An ordered list is rebuilt by inserting its entries in turn. -/
theorem foldl_insert_of_sorted : ∀ (fs es : Entries), Sorted (es ++ fs) →
    fs.foldl (fun m e => m.insert e.1 e.2) es = es ++ fs
  | [], es, _ => by rw [List.foldl_nil, List.append_nil]
  | (k, v) :: fs, es, h => by
    have hlt : ∀ e ∈ es, e.1 < k := fun e he =>
      (List.pairwise_append.mp h).2.2 e he (k, v) List.mem_cons_self
    have hassoc : es ++ (k, v) :: fs = es ++ [(k, v)] ++ fs := by
      rw [List.append_assoc, List.singleton_append]
    rw [List.foldl_cons, insert_of_forall_lt v hlt, hassoc]
    exact foldl_insert_of_sorted fs _ (hassoc ▸ h)

end Entries

end SinkAudit

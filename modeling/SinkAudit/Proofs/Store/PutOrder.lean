import SinkAudit.Proofs.Store.Durability

/-!
# The order of puts

Verdicts for different signatures may be put in any order: memory is the same in the end, and so is
the log once it has been written anew.

* `putAll`: verdicts put in turn.
* `get?_putAll_of_mem`: what is put is there, if its signature comes once.
* `get?_putAll_perm`: memory does not depend on the order.
* `Held.read_flush_perm`: the bytes of the log after `flush` do not depend on the order;
  `Held.read_flush_between`: nor do they depend on whether the log was written anew in between.
-/

namespace SinkAudit

open Workspace

namespace Store

/-- Verdicts put in turn. -/
def putAll : List (String × Verdict) → Store × Workspace → Store × Workspace
  | [], x => x
  | (sig, v) :: l, (s, w) => putAll l (s.put w sig v).2

theorem putAll_append (l' : List (String × Verdict)) :
    ∀ (l : List (String × Verdict)) (x : Store × Workspace),
      putAll (l ++ l') x = putAll l' (putAll l x)
  | [], x => rfl
  | (sig, v) :: l, (s, w) => by
    rw [List.cons_append, putAll, putAll, putAll_append l' l]

/-! ## Memory -/

/-- A verdict is in memory whether or not it could be appended to the log. -/
theorem put_cases {s : Store} {path : String} (hpath : s.path = some path) (w : Workspace)
    (sig : String) (v : Verdict) (saving : Saving) :
    ∃ handle torn appended,
      (s.put w sig v saving).2.1 = ⟨some path, s.entries.insert sig v, handle, torn, appended⟩ := by
  obtain ⟨p, es, handle, torn, n⟩ := s
  obtain rfl : p = some path := hpath
  rw [put]
  dsimp only
  split
  · exact ⟨_, _, _, rfl⟩
  · split
    · exact ⟨_, _, _, rfl⟩
    · exact ⟨_, _, _, rfl⟩

theorem exists_path_of_isEnabled {s : Store} (h : s.isEnabled = true) : ∃ path, s.path = some path :=
  Option.isSome_iff_exists.mp h

theorem path_of_not_isEnabled {s : Store} (h : s.isEnabled = false) : s.path = none :=
  Option.isSome_eq_false_iff.mp h |> Option.isNone_iff_eq_none.mp

theorem put_of_not_isEnabled {s : Store} (h : s.isEnabled = false) (w : Workspace) (sig : String)
    (v : Verdict) {saving : Saving} : (s.put w sig v saving).2 = (s, w) := by
  rw [put, path_of_not_isEnabled h]

theorem isEnabled_put (s : Store) (w : Workspace) (sig : String) (v : Verdict) {saving : Saving} :
    (s.put w sig v saving).2.1.isEnabled = s.isEnabled := by
  cases henabled : s.isEnabled with
  | false => rw [put_of_not_isEnabled henabled, henabled]
  | true =>
    obtain ⟨path, hpath⟩ := exists_path_of_isEnabled henabled
    obtain ⟨handle, torn, n, hput⟩ := put_cases hpath w sig v saving
    rw [hput]
    rfl

theorem entries_put {s : Store} (h : s.isEnabled = true) (w : Workspace) (sig : String)
    (v : Verdict) {saving : Saving} :
    (s.put w sig v saving).2.1.entries = s.entries.insert sig v := by
  obtain ⟨path, hpath⟩ := exists_path_of_isEnabled h
  obtain ⟨handle, torn, n, hput⟩ := put_cases hpath w sig v saving
  rw [hput]

theorem get?_put {s : Store} (h : s.isEnabled = true) (w : Workspace) (sig key : String)
    (v : Verdict) :
    (s.put w key v).2.1.get? sig = if sig = key then some v else s.get? sig := by
  rw [Store.get?, entries_put h]
  exact Entries.get?_insert key sig v s.entries

theorem entries_compact (s : Store) (w : Workspace) {saving : Saving} :
    (s.compact w saving).2.1.entries = s.entries := by
  rcases s.compact_store w saving with h | h
  · rw [h]
  · rw [h]

theorem isEnabled_compact (s : Store) (w : Workspace) {saving : Saving} :
    (s.compact w saving).2.1.isEnabled = s.isEnabled := by
  rcases s.compact_store w saving with h | h
  · rw [h]
  · rw [h]
    rfl

theorem entries_flush (s : Store) (w : Workspace) {saving : Saving} :
    (s.flush w saving).2.1.entries = s.entries := by
  rw [flush]
  split
  · exact s.entries_compact w
  · rfl

theorem isEnabled_flush (s : Store) (w : Workspace) {saving : Saving} :
    (s.flush w saving).2.1.isEnabled = s.isEnabled := by
  rw [flush]
  split
  · exact s.isEnabled_compact w
  · rfl

theorem putAll_of_not_isEnabled {s : Store} (h : s.isEnabled = false) (w : Workspace) :
    ∀ l : List (String × Verdict), putAll l (s, w) = (s, w)
  | [] => rfl
  | (sig, v) :: l => by rw [putAll, put_of_not_isEnabled h, putAll_of_not_isEnabled h w l]

theorem isEnabled_putAll :
    ∀ (l : List (String × Verdict)) (s : Store) (w : Workspace),
      (putAll l (s, w)).1.isEnabled = s.isEnabled
  | [], _, _ => rfl
  | (sig, v) :: l, s, w => by
    rw [putAll]
    exact (isEnabled_putAll l _ _).trans (isEnabled_put s w sig v)

theorem entries_putAll :
    ∀ (l : List (String × Verdict)) {s : Store} (w : Workspace), s.isEnabled = true →
      (putAll l (s, w)).1.entries = l.foldl (fun m e => m.insert e.1 e.2) s.entries
  | [], _, _, _ => rfl
  | (sig, v) :: l, s, w, h => by
    rw [putAll, entries_putAll l _ ((isEnabled_put s w sig v).trans h), entries_put h,
      List.foldl_cons]

section Memory

variable {sig : String}

theorem get?_putAll_of_notMem :
    ∀ (l : List (String × Verdict)) (s : Store) (w : Workspace), sig ∉ l.map (·.1) →
      (putAll l (s, w)).1.get? sig = s.get? sig
  | [], _, _, _ => rfl
  | (key, v) :: l, s, w, h => by
    rw [List.map_cons, List.mem_cons, not_or] at h
    rw [putAll]
    cases henabled : s.isEnabled with
    | true =>
      have ih := get?_putAll_of_notMem l (s.put w key v).2.1 (s.put w key v).2.2 h.2
      rw [ih, get?_put henabled, if_neg h.1]
    | false => rw [put_of_not_isEnabled henabled, putAll_of_not_isEnabled henabled]

/-- What is put is there in the end: no later verdict takes its place. -/
theorem get?_putAll_of_mem {v : Verdict} :
    ∀ (l : List (String × Verdict)) (s : Store) (w : Workspace), s.isEnabled = true →
      (l.map (·.1)).Nodup → (sig, v) ∈ l → (putAll l (s, w)).1.get? sig = some v
  | (key, u) :: l, s, w, henabled, hnodup, hmem => by
    rw [List.map_cons, List.nodup_cons] at hnodup
    have henabled' : (s.put w key u).2.1.isEnabled = true :=
      (isEnabled_put s w key u).trans henabled
    rw [putAll]
    rcases List.mem_cons.mp hmem with heq | hmem
    · obtain ⟨rfl, rfl⟩ := Prod.mk.inj heq
      have hrest := get?_putAll_of_notMem l (s.put w sig v).2.1 (s.put w sig v).2.2 hnodup.1
      rw [hrest, get?_put henabled, if_pos rfl]
    · exact get?_putAll_of_mem l _ _ henabled' hnodup.2 hmem

/-- Memory does not depend on the order of the puts. -/
theorem get?_putAll_perm {l l' : List (String × Verdict)} (hperm : l.Perm l')
    (hnodup : (l.map (·.1)).Nodup) (s : Store) (w : Workspace) :
    (putAll l (s, w)).1.get? sig = (putAll l' (s, w)).1.get? sig := by
  have hkeys := hperm.map (·.1)
  by_cases hmem : sig ∈ l.map (·.1)
  · obtain ⟨⟨key, v⟩, hkv, rfl⟩ := List.mem_map.mp hmem
    cases henabled : s.isEnabled with
    | true =>
      rw [get?_putAll_of_mem l s w henabled hnodup hkv,
        get?_putAll_of_mem l' s w henabled (hkeys.nodup_iff.mp hnodup) (hperm.mem_iff.mp hkv)]
    | false => rw [putAll_of_not_isEnabled henabled, putAll_of_not_isEnabled henabled]
  · rw [get?_putAll_of_notMem l s w hmem,
      get?_putAll_of_notMem l' s w fun h => hmem (hkeys.mem_iff.mpr h)]

end Memory

/-! ## The log -/

section Logs

variable {path k : String} {d : Place} {s : Store} {w : Workspace}

theorem Kept.putAll :
    ∀ (l : List (String × Verdict)) {s : Store} {w : Workspace}, Kept path k s w →
      Kept path k (putAll l (s, w)).1 (putAll l (s, w)).2
  | [], _, _, h => h
  | (sig, v) :: l, s, w, h => by
    obtain ⟨s', w', hput, -, -, hkept⟩ := h.put sig v
    rw [Store.putAll, hput]
    exact Kept.putAll l hkept

theorem Attached.isEnabled {bytes : ByteArray} (h : Attached path k d bytes s w) :
    s.isEnabled = true := by
  rw [Store.isEnabled, h.path_eq]
  rfl

theorem Attached.putAll :
    ∀ (l : List (String × Verdict)) {bytes : ByteArray} {s : Store} {w : Workspace},
      Attached path k d bytes s w →
      (∃ bytes', Attached path k d bytes' (putAll l (s, w)).1 (putAll l (s, w)).2) ∧
        (Store.putAll l (s, w)).1.appended = s.appended + l.length
  | [], _, _, _, h => ⟨⟨_, h⟩, rfl⟩
  | (sig, v) :: l, _, s, w, h => by
    obtain ⟨i, w', hput, hattached⟩ := h.put_ok sig v
    obtain ⟨hexists, happended⟩ := Attached.putAll l hattached
    rw [Store.putAll, hput]
    refine ⟨hexists, ?_⟩
    rw [happended, List.length_cons]
    dsimp only
    omega

/-- The log after verdicts have been put and it has been written anew. -/
theorem Attached.read_flush_putAll {bytes : ByteArray} (h : Attached path k d bytes s w)
    (hfits : TempFits path k) (l : List (String × Verdict)) (hl : 0 < s.appended + l.length) :
    ((Store.putAll l (s, w)).1.flush (Store.putAll l (s, w)).2).2.2.read path =
      .ok (Log.text (l.foldl (fun m e => m.insert e.1 e.2) s.entries)).toUTF8 := by
  obtain ⟨⟨bytes', hattached⟩, happended⟩ := Attached.putAll l h
  obtain ⟨w', hcompact, hread, -⟩ := hattached.compact_ok hfits
  rw [flush, happended, if_pos hl, hcompact, ← entries_putAll l w h.isEnabled]
  exact hread

/-- The same from before the directory of the log is made, if anything is put. -/
theorem Held.read_flush_putAll {bytes : ByteArray} (h : Held path k bytes s w)
    (hfits : TempFits path k) {l : List (String × Verdict)} (hl : l ≠ []) :
    ((Store.putAll l (s, w)).1.flush (Store.putAll l (s, w)).2).2.2.read path =
      .ok (Log.text (l.foldl (fun m e => m.insert e.1 e.2) s.entries)).toUTF8 := by
  obtain ⟨⟨sig, v⟩, l, rfl⟩ := List.exists_cons_of_ne_nil hl
  obtain ⟨d, i, w', hput, hattached⟩ := h.put sig v
  rw [Store.putAll, hput]
  exact hattached.read_flush_putAll hfits l (Nat.lt_of_lt_of_le (Nat.succ_pos _) (Nat.le_add_right _ _))

theorem Held.isEnabled {bytes : ByteArray} (h : Held path k bytes s w) : s.isEnabled = true := by
  cases h with
  | pending _ _ _ _ h => exact h.isEnabled
  | attached h => exact h.isEnabled

/-- The log that `flush` leaves does not depend on the order of the puts before. -/
theorem Held.read_flush_perm {bytes : ByteArray} (h : Held path k bytes s w)
    (hfits : TempFits path k) (hsorted : s.entries.Sorted) {l l' : List (String × Verdict)}
    (hperm : l.Perm l') (hnodup : (l.map (·.1)).Nodup) :
    ((putAll l (s, w)).1.flush (putAll l (s, w)).2).2.2.read path =
      ((putAll l' (s, w)).1.flush (putAll l' (s, w)).2).2.2.read path := by
  by_cases hl : l = []
  · subst hl
    rw [hperm.nil_eq]
  · have hl' : l' ≠ [] := fun hnil => hl (hnil ▸ hperm).eq_nil
    have hentries : l.foldl (fun m e => m.insert e.1 e.2) s.entries =
        l'.foldl (fun m e => m.insert e.1 e.2) s.entries := by
      refine Entries.ext_of_sorted (Entries.sorted_foldl_insert l hsorted)
        (Entries.sorted_foldl_insert l' hsorted) fun sig => ?_
      have hget := @get?_putAll_perm sig l l' hperm hnodup s w
      rw [get?, get?, entries_putAll l w h.isEnabled, entries_putAll l' w h.isEnabled] at hget
      exact hget
    rw [h.read_flush_putAll hfits hl, h.read_flush_putAll hfits hl', hentries]

end Logs

/-! ## Writing the log anew in between -/

section Between

variable {path k : String} {d : Place} {s : Store} {w : Workspace}

/-- Whether the log has been written anew before verdicts are put does not show once it is written
anew after them. -/
theorem Held.read_flush_between {bytes : ByteArray} (h : Held path k bytes s w)
    (l : List (String × Verdict)) :
    ((putAll l (s.flush w).2).1.flush (putAll l (s.flush w).2).2).2.2.read path =
      ((putAll l (s, w)).1.flush (putAll l (s, w)).2).2.2.read path := by
  by_cases happended : 0 < s.appended
  case neg =>
    have hflush : s.flush w = (.ok (), s, w) := if_neg happended
    rw [hflush]
  case pos =>
    have hflush : s.flush w = s.compact w := if_pos happended
    cases h with
    | pending _ named away _ hattached =>
      obtain ⟨e, he⟩ := compact_away hattached.path_eq named away .done
      rw [hflush, he]
    | attached h =>
      by_cases hfits : TempFits path k
      case neg =>
        obtain ⟨e, he⟩ := h.compact_error hfits
        rw [hflush, he]
      case pos =>
        obtain ⟨w', hcompact, hread, h'⟩ := h.compact_ok hfits
        rw [h.read_flush_putAll hfits l (by omega), hflush, hcompact]
        cases l with
        | nil => exact hread
        | cons p l => exact h'.read_flush_putAll hfits (p :: l) (Nat.succ_pos _)

end Between

end Store
end SinkAudit

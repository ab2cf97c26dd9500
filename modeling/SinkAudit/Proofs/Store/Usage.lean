import SinkAudit.Proofs.Store.Compaction
import SinkAudit.Proofs.Store.Provenance

/-!
# A store in use

A store is opened at a path, and then it is used: verdicts are put, and the log is written anew or opened
again.  Some of this may go wrong.  What is written may be cut off by a fault, in the middle of a record or
of the new log; and the log may be out of reach for a moment, so that a verdict is in memory only.

Where the path is one at which a log can be kept, none of this takes the log away from the store.  Its bytes
may be anything by then, and need not be a text.  But once the log is written anew without a fault, its bytes
are told by memory alone, and so they do not depend on the order in which verdicts were put.

* `Used`: a store with its workspace, after any use; `Used.exists_held`: it holds its log.
* `Writable`: a path at which a log can be kept and written anew.
* `Used.read_flush_perm`: at such a path, the log that a flush leaves does not depend on the order of the
  puts before it.
-/

namespace SinkAudit

open Workspace

namespace Store

/-- A store that was opened at a path and has been used since, with the workspace as it has become.  Whether
what was written could be saved is left open at each step.  A put may also have found the log out of reach in
a workspace that was as before again afterwards. -/
inductive Used (path : String) (start : Workspace) : Store → Workspace → Prop
  | opened : Used path start (openAt start path) start
  | put {s : Store} {w : Workspace} (h : Used path start s w) (sig : String) (v : Verdict)
    (saving : Saving) : Used path start (s.put w sig v saving).2.1 (s.put w sig v saving).2.2
  | blocked {s : Store} {w : Workspace} (h : Used path start s w) {w' : Workspace} {sig : String}
    {v : Verdict} {e : Error} (hput : (s.put w' sig v).1 = .error e) :
    Used path start (s.put w' sig v).2.1 w
  | compact {s : Store} {w : Workspace} (h : Used path start s w) (saving : Saving) :
    Used path start (s.compact w saving).2.1 (s.compact w saving).2.2
  | flush {s : Store} {w : Workspace} (h : Used path start s w) (saving : Saving) :
    Used path start (s.flush w saving).2.1 (s.flush w saving).2.2
  | reopened {s : Store} {w : Workspace} (h : Used path start s w) : Used path start (openAt w path) w

section Uses

variable {path k : String} {start : Workspace} {s : Store} {w : Workspace}

theorem Used.reached (h : Used path start s w) : Reached s := by
  induction h with
  | opened => exact .openAt _ _
  | put _ sig v saving ih => exact ih.put _ sig v saving
  | blocked _ _ ih => exact ih.put _ _ _ .done
  | compact _ saving ih => exact ih.compact _ saving
  | flush _ saving ih => exact ih.flush _ saving
  | reopened _ _ => exact .openAt _ _

theorem Used.putAll :
    ∀ (l : List (String × Verdict)) {s : Store} {w : Workspace}, Used path start s w →
      Used path start (putAll l (s, w)).1 (putAll l (s, w)).2
  | [], _, _, h => h
  | (sig, v) :: l, _, _, h => Used.putAll l (h.put sig v .done)

/-- The log stays with the store, whatever bytes it comes to have. -/
theorem Used.exists_held (h : Used path start s w) (hplace : LogPlace start path)
    (hk : Named path k) : ∃ bytes, Held path k bytes s w := by
  induction h with
  | opened =>
    obtain ⟨bytes, hheld, -⟩ := hplace.exists_held hk
    exact ⟨bytes, hheld⟩
  | put _ sig v saving ih =>
    obtain ⟨bytes, hheld⟩ := ih
    exact hheld.exists_put sig v saving
  | blocked _ hput ih =>
    obtain ⟨bytes, hheld⟩ := ih
    rw [store_of_put_error hput]
    exact ⟨bytes, hheld.of_eq rfl rfl⟩
  | compact _ saving ih =>
    obtain ⟨bytes, hheld⟩ := ih
    exact hheld.exists_compact saving
  | flush _ saving ih =>
    obtain ⟨bytes, hheld⟩ := ih
    exact hheld.exists_flush saving
  | reopened _ ih =>
    obtain ⟨bytes, hheld⟩ := ih
    exact ⟨bytes, hheld.reopen⟩

/-! ## Where the log can be written anew -/

/-- A path at which a log can be kept and written anew.  The log may be missing, or hold any bytes.  A path
is not writable if there is a directory or a link beside the log, where the new log is to be written, or if
the name or the path beside the log is too long for anything to be there. -/
structure Writable (w : Workspace) (path : String) : Prop where
  place : LogPlace w path
  fits : ∃ k, Named path k ∧ TempFits path k

/-- Whatever has become of the log before, the order of the puts does not show in it once it has been
flushed. -/
theorem Used.read_flush_perm (h : Used path start s w) (hstart : Writable start path)
    {l l' : List (String × Verdict)} (hperm : l.Perm l') (hnodup : (l.map (·.1)).Nodup) :
    ((Store.putAll l (s, w)).1.flush (Store.putAll l (s, w)).2).2.2.read path =
      ((Store.putAll l' (s, w)).1.flush (Store.putAll l' (s, w)).2).2.2.read path := by
  obtain ⟨k, hk, hfits⟩ := hstart.fits
  obtain ⟨bytes, hheld⟩ := h.exists_held hstart.place hk
  exact hheld.read_flush_perm hfits h.reached.sorted hperm hnodup

end Uses

end Store
end SinkAudit

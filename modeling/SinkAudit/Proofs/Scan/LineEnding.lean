import Mathlib.Data.List.Basic
import SinkAudit.Proofs.Scan.Signature

/-!
# Line endings

A text may end its lines with carriage returns, with line feeds, or with both together, and the scan
does not tell the difference.  Rewriting every end of a line to a line feed rewrites each line by
itself (`split_unify`): it keeps the body of the line and whether anything closed it.  All that is
shown or judged of a line depends on these two alone.  The trimmed form and the rows of a window do so
by their definitions, and what a built-in rule finds does so because it is the same in the trimmed
line.

* `Line.unify`: the text with a line feed for each end of a line.
* `Line.Resembles`: lines with the same body that are both closed or both not.
* `Scanner.sightings_unify`: lines that resemble each other give the same candidates.
* `Scanner.scanContent_unify`: the scan of a text and of the text with unified line ends.
-/

namespace SinkAudit

namespace Scan.Line

open Text (dropEndWhile)

/-! ## Unified line ends -/

/-- The characters with a line feed for each end of a line. -/
def unifyChars : List Char → List Char
  | [] => []
  | '\r' :: '\n' :: r => '\n' :: unifyChars r
  | '\r' :: r => '\n' :: unifyChars r
  | c :: r => c :: unifyChars r

/-- The text with a line feed for each end of a line. -/
def unify (content : String) : String :=
  String.ofList (unifyChars content.toList)

theorem unifyChars_cons {c : Char} (hc : c ≠ '\r') (r : List Char) :
    unifyChars (c :: r) = c :: unifyChars r := by
  rw [unifyChars.eq_def]
  split <;> simp_all

theorem return_notMem_unifyChars (s : List Char) : '\r' ∉ unifyChars s := by
  fun_induction unifyChars s with
  | case1 => exact List.not_mem_nil
  | case2 r ih => simpa using ih
  | case3 r _ ih => simpa using ih
  | case4 c r _ hc ih =>
    rw [List.mem_cons, not_or]
    exact ⟨fun h => hc h.symm, ih⟩

/-- The lines of the unified text are the lines of the text, each unified by itself. -/
theorem splitChars_unifyChars (s : List Char) :
    splitChars (unifyChars s) = (splitChars s).map unifyChars := by
  fun_induction splitChars s with
  | case1 => rfl
  | case2 r ih =>
    rw [unifyChars_cons (by decide), splitChars, ih]
    rfl
  | case3 r ih =>
    rw [unifyChars, splitChars, ih]
    rfl
  | case4 r h ih =>
    rw [unifyChars, splitChars, ih]
    · rfl
    · exact h
  | case5 c r hn _ hr hnil ih =>
    rw [hnil] at ih
    rw [unifyChars_cons hr, splitChars_cons_of_nil hn hr ih, List.map_singleton, unifyChars_cons hr]
    rfl
  | case6 c r hn _ hr l ls hls ih =>
    rw [hls, List.map_cons] at ih
    rw [unifyChars_cons hr, splitChars_cons_of_cons hn hr ih, List.map_cons, unifyChars_cons hr]

theorem split_unify (content : String) :
    split (unify content) = (split content).map unify := by
  have hunify : unify ∘ String.ofList = String.ofList ∘ unifyChars := by
    funext l
    simp [unify]
  rw [split, split, unify, String.toList_ofList, splitChars_unifyChars, List.map_map, List.map_map,
    hunify]

/-! ## Lines that resemble each other -/

/-- Two lines have the same body, and a terminator closes both or neither. -/
structure Resembles (line line' : String) : Prop where
  body_eq : body line = body line'
  isClosed_eq : isClosed line = isClosed line'

theorem Resembles.trim_eq {line line' : String} (h : Resembles line line') :
    Text.trim line = Text.trim line' := by
  rw [← trim_body, h.body_eq, trim_body]

theorem unifyChars_of_forall {x : List Char} (hfree : ∀ c ∈ x, isTerminator c = false)
    (r : List Char) : unifyChars (x ++ r) = x ++ unifyChars r := by
  induction x with
  | nil => rfl
  | cons c x ih =>
    obtain ⟨hc, hx⟩ := List.forall_mem_cons.mp hfree
    have hne : c ≠ '\r' := by
      rintro rfl
      exact absurd hc (by decide)
    rw [List.cons_append, unifyChars_cons hne, ih hx, List.cons_append]

theorem IsEnd.unifyChars_eq {t : List Char} (h : IsEnd t) : unifyChars t = ['\n'] := by
  cases h <;> rfl

/-- A line that is unified keeps its body and loses no terminator but to gain another. -/
theorem Lines.unifyChars_eq {ls : List (List Char)} (h : Lines ls) {l : List Char} (hl : l ∈ ls) :
    dropEndWhile isTerminator (unifyChars l) = dropEndWhile isTerminator l ∧
      ((dropEndWhile isTerminator l).length < (unifyChars l).length ↔
        (dropEndWhile isTerminator l).length < l.length) := by
  induction h with
  | nil => exact absurd hl List.not_mem_nil
  | @last x _ hfree =>
    obtain rfl := List.mem_singleton.mp hl
    have hunify : unifyChars l = l := by
      have happend := unifyChars_of_forall hfree []
      rwa [List.append_nil, unifyChars, List.append_nil] at happend
    rw [hunify]
    exact ⟨rfl, Iff.rfl⟩
  | @cons x t ls hfree ht _ ih =>
    rcases List.mem_cons.mp hl with rfl | hl
    · rw [unifyChars_of_forall hfree, ht.unifyChars_eq, dropEndWhile_append_end hfree .feed,
        dropEndWhile_append_end hfree ht]
      refine ⟨rfl, ?_⟩
      have hpos := ht.length_pos
      simp only [List.length_append, List.length_singleton]
      omega
    · exact ih hl

theorem resembles_unify {content line : String} (h : line ∈ split content) :
    Resembles (unify line) line := by
  obtain ⟨l, hl, rfl⟩ := List.mem_map.mp h
  obtain ⟨hbody, hlength⟩ := (lines_splitChars content.toList).unifyChars_eq hl
  have hbody' : body (unify (String.ofList l)) = body (String.ofList l) := by
    rw [body, body, unify, String.toList_ofList, String.toList_ofList, hbody]
  refine ⟨hbody', ?_⟩
  rw [isClosed, isClosed, hbody', decide_eq_decide]
  simp only [← String.length_toList, toList_body, unify, String.toList_ofList]
  exact hlength

end Scan.Line

/-! ## Windows -/

namespace Scan

open Line (Resembles)

theorem Window.row_eq_of_resembles {line line' : String} (h : Resembles line line')
    (target index : Nat) : row target index line = row target index line' := by
  rw [row, row, h.body_eq, h.isClosed_eq]

theorem Window.rows_map {f : String → String} {ls : List String}
    (h : ∀ l ∈ ls, Resembles (f l) l) (target index : Nat) :
    rows target index (ls.map f) = rows target index ls := by
  induction ls generalizing index with
  | nil => rfl
  | cons l ls ih =>
    obtain ⟨hl, hls⟩ := List.forall_mem_cons.mp h
    rw [List.map_cons, rows, rows, row_eq_of_resembles hl, ih hls]

/-- A window shows the same of lines that resemble each other. -/
theorem Window.plain_map {f : String → String} {lines : List String}
    (h : ∀ l ∈ lines, Resembles (f l) l) (target radius : Nat) :
    plain (lines.map f) target radius = plain lines target radius := by
  have hshown : ∀ l ∈ (lines.take (limit target radius lines.length)).drop (start target radius),
      Resembles (f l) l := by
    intro l hl
    exact h l (List.mem_of_mem_take (List.mem_of_mem_drop hl))
  rw [plain, plain, text, text, List.length_map, ← List.map_take, ← List.map_drop, rows_map hshown]

end Scan

/-! ## Candidates -/

namespace Catalog

open Scan.Line (Resembles)

/-- The catalog claims lines that resemble each other in the same way. -/
def IgnoresEnds (c : Catalog) : Prop :=
  ∀ line line' : String, Resembles line line' → c.matchLine line = c.matchLine line'

/-- The built-in rules do not see how a line was ended, whichever of them are left out. -/
theorem ignoresEnds_without (ids : List String) : (builtin.without ids).IgnoresEnds := by
  intro line line' h
  rw [← matchLine_trim ids line, h.trim_eq, matchLine_trim ids line']

end Catalog

namespace Scanner

open Scan.Line (Resembles unify)

variable {s : Scanner} {f : String → String} {lines : List String}

/-- Lines that resemble each other give the same candidates. -/
theorem sighting?_map (hs : s.catalog.IgnoresEnds) (h : ∀ l ∈ lines, Resembles (f l) l)
    (path : String) (index : Nat) {line : String} (hline : line ∈ lines) :
    s.sighting? path (lines.map f) index (f line) = s.sighting? path lines index line := by
  have hends := h line hline
  simp only [sighting?, claimed?, claim, hends.trim_eq, hs _ _ hends, Scan.Window.plain_map h]

/-- A scanner whose rules do not see how a line was ended sees the same in the unified text. -/
theorem sightings_unify (hs : s.catalog.IgnoresEnds) (path content : String) :
    s.sightings path (unify content) = s.sightings path content := by
  have hlines : ∀ l ∈ Scan.Line.split content, Resembles (unify l) l := by
    intro l hl
    exact Scan.Line.resembles_unify hl
  rw [sightings, sightings, Scan.Line.split_unify, List.zipIdx_map, List.filterMap_map]
  refine List.filterMap_congr fun x hx => ?_
  simp only [Function.comp_apply, Prod.map_fst, Prod.map_snd, id_eq]
  exact sighting?_map hs hlines path x.2 (List.fst_mem_of_mem_zipIdx hx)

/-- **Line ends do not matter.**  The unified text has no carriage return left, and with the built-in
rules, whichever of them are left out, it has the candidates of the text itself: the same lines by
number, with the same rules, patterns, windows and trimmed texts. -/
theorem scanContent_unify (ids : List String) (config : ScanConfig) (path content : String) :
    '\r' ∉ (unify content).toList ∧
      (Scanner.mk (Catalog.builtin.without ids) config).scanContent path (unify content) =
        (Scanner.mk (Catalog.builtin.without ids) config).scanContent path content := by
  constructor
  · rw [unify, String.toList_ofList]
    exact Scan.Line.return_notMem_unifyChars content.toList
  · have hs := Catalog.ignoresEnds_without ids
    -- From here on the rules themselves do not matter.
    generalize Catalog.builtin.without ids = catalog at hs ⊢
    exact scanContent_congr (sightings_unify (s := ⟨catalog, config⟩) hs path content)

end Scanner

end SinkAudit

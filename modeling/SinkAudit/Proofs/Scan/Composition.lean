import SinkAudit.Proofs.Scan.Content

/-!
# The scan of two texts, one behind the other

A scan takes the lines of a text one by one, and no decision on a line is carried over to the next.  So
where two texts are put together between two lines, the scan of the whole is the scan of the first text
and then that of the second, with its line numbers moved on.

The windows are the one exception: near the place where the texts meet, a window shows lines of both.
What remains of a candidate without its window is a `Hit`.  And the window of a line that is moved on may
have no end where it had one before; then the scan of the whole fails, and in no other case if those of
the two texts succeed.

The two texts may meet behind a line feed, and also behind a carriage return, but not in the middle of a
carriage return and a line feed, which end one line together (`Scan.Line.Apart`).

* `Hit`, `Candidate.hit`: what a scan says of a line by itself.
* `hit_sightingsFrom_moved`: what is said of lines further down, and among other lines.
* `hits_sightings_append`, `fits_append`: what there is to say of two texts, and whether it can be said.
* `hits_append`: the scan of two texts.
-/

namespace SinkAudit

/-- What a scan says of a line by itself, without the window around it. -/
structure Hit where
  line : Nat
  ruleId : String
  vulnName : String
  pattern : String
  rawLine : String
  deriving DecidableEq, Repr

namespace Hit

/-- The same of a line that stands `k` lines further down. -/
def moved (k : Nat) (h : Hit) : Hit :=
  { h with line := h.line + k }

end Hit

/-- A candidate without its file and its window. -/
def Candidate.hit (c : Candidate) : Hit :=
  ⟨c.line, c.ruleId, c.vulnName, c.pattern, c.rawLine⟩

namespace Scanner

open Scan (wordSize)
open Scan.Line (Apart split)

variable {front back : String}

/-- What is said of a line does not depend on the lines around it, and it depends on the place of the
line by the number alone. -/
theorem hit_sighting?_moved (s : Scanner) (path : String) (lines lines' : List String)
    (index k : Nat) (line : String) :
    (s.sighting? path lines' (index + k) line).map Candidate.hit =
      ((s.sighting? path lines index line).map Candidate.hit).map (Hit.moved k) := by
  have hnumber : index + k + 1 = index + 1 + k := Nat.add_right_comm index k 1
  simp only [sighting?, Option.map_map, Function.comp_def, claim, Candidate.hit, Hit.moved, hnumber]

/-- The sightings in a run of lines whose first has the given index. -/
def sightingsFrom (s : Scanner) (path : String) (lines : List String) (i : Nat) (ls : List String) :
    List Candidate :=
  (ls.zipIdx i).filterMap fun x => s.sighting? path lines x.2 x.1

/-- What is said of a run of lines that stands further down, and among other lines. -/
theorem hit_sightingsFrom_moved (s : Scanner) (path : String) (lines lines' : List String) (k : Nat)
    (i : Nat) (ls : List String) :
    (s.sightingsFrom path lines' (i + k) ls).map Candidate.hit =
      ((s.sightingsFrom path lines i ls).map Candidate.hit).map (Hit.moved k) := by
  have hindices : ls.zipIdx (i + k) = (ls.zipIdx i).map (Prod.map id (· + k)) := by
    rw [List.map_snd_add_zipIdx_eq_zipIdx, Nat.add_comm]
  rw [sightingsFrom, sightingsFrom, hindices]
  simp only [List.filterMap_map, List.map_filterMap]
  refine List.filterMap_congr fun x _ => ?_
  simp only [Function.comp_apply, Prod.map_fst, Prod.map_snd, id_eq]
  exact hit_sighting?_moved s path lines lines' x.2 k x.1

/-- What there is to say of the lines of two texts. -/
theorem hits_sightings_append (s : Scanner) (path : String) (h : Apart front.toList back.toList) :
    (s.sightings path (front ++ back)).map Candidate.hit =
      (s.sightings path front).map Candidate.hit ++
        (s.sightings path back).map fun c => c.hit.moved (split front).length := by
  have hsplit : s.sightings path (front ++ back) =
      s.sightingsFrom path (split front ++ split back) 0 (split front) ++
        s.sightingsFrom path (split front ++ split back) (0 + (split front).length) (split back) := by
    rw [sightings, Scan.Line.split_append h, List.zipIdx_append, List.filterMap_append]
    rfl
  have hfront : (s.sightingsFrom path (split front ++ split back) 0 (split front)).map
      Candidate.hit = (s.sightings path front).map Candidate.hit := by
    have hsame :=
      hit_sightingsFrom_moved s path (split front) (split front ++ split back) 0 0 (split front)
    rw [hsame]
    exact List.map_id'' (fun _ => rfl) _
  have hback : (s.sightingsFrom path (split front ++ split back) (0 + (split front).length)
        (split back)).map Candidate.hit =
      (s.sightings path back).map fun c => c.hit.moved (split front).length := by
    rw [hit_sightingsFrom_moved s path (split back), List.map_map]
    rfl
  rw [hsplit, List.map_append, hfront, hback]

/-- The windows of two texts have their ends if those of the first have, and those of the second at their
new places. -/
theorem fits_append (s : Scanner) (path : String) (h : Apart front.toList back.toList) :
    s.Fits (front ++ back) ↔ s.Fits front ∧ ∀ c ∈ s.sightings path back,
      c.line + (split front).length + s.config.contextLines < wordSize := by
  have hhits : ∀ text, s.Fits text ↔
      ∀ x ∈ (s.sightings path text).map Candidate.hit, x.line + s.config.contextLines < wordSize := by
    intro text
    rw [fits_iff s path, List.forall_mem_map]
    exact Iff.rfl
  rw [hhits (front ++ back), hits_sightings_append s path h, List.forall_mem_append, ← hhits front,
    List.forall_mem_map]
  exact Iff.rfl

/-- **The scan of two texts, one behind the other.**  Let no line reach from the first text into the
second.  If the scan of the whole succeeds, so do those of the two texts, and it says of its lines what
the scan of the first text says and then what the scan of the second says, each line number of which grows
by the number of lines of the first.  If the scans of the two texts succeed, so does that of the whole,
unless the window of a line of the second has no end at its new place.  And the scan of the whole cannot
fail but by such an overflow. -/
theorem hits_append (s : Scanner) (path : String) (h : Apart front.toList back.toList) :
    (∀ cs, s.scanContent path (front ++ back) = .ok cs →
      ∃ as bs, s.scanContent path front = .ok as ∧ s.scanContent path back = .ok bs ∧
        cs.map Candidate.hit =
          as.map Candidate.hit ++ bs.map fun c => c.hit.moved (split front).length) ∧
    (∀ as bs, s.scanContent path front = .ok as → s.scanContent path back = .ok bs →
      ((∃ cs, s.scanContent path (front ++ back) = .ok cs) ↔
        ∀ c ∈ bs, c.line + (split front).length + s.config.contextLines < wordSize)) ∧
    ∀ e, s.scanContent path (front ++ back) = .error e → e = .overflow := by
  refine ⟨fun cs hcs => ?_, fun as bs has hbs => ?_, fun e he => ?_⟩
  · obtain ⟨hfits, rfl⟩ := scanContent_eq_ok_iff.mp hcs
    obtain ⟨hfront, hmoved⟩ := (fits_append s path h).mp hfits
    have hback : s.Fits back := by
      refine (fits_iff s path back).mpr fun c hc => ?_
      have hbound := hmoved c hc
      omega
    exact ⟨_, _, scanContent_of_fits hfront path, scanContent_of_fits hback path,
      hits_sightings_append s path h⟩
  · obtain ⟨hfront, rfl⟩ := scanContent_eq_ok_iff.mp has
    obtain ⟨-, rfl⟩ := scanContent_eq_ok_iff.mp hbs
    rw [exists_scanContent_iff, fits_append s path h]
    exact and_iff_right hfront
  · exact eq_overflow_of_scanContent he

/-- Two lines of which the second, a call, ends with a carriage return. -/
def upperHalf : String := "let a\r\neval(x)\r"

/-- Two lines of which the first is empty; it begins with a carriage return too. -/
def lowerHalf : String := "\r\neval(x)\n"

/-- A scanner for a single rule. -/
def forCalls : Scanner := ⟨⟨[Rule.reading .codeInjection]⟩, {}⟩

/-- The texts meet between two carriage returns, so that nothing is lost of either. -/
theorem hits_append_returns :
    Apart upperHalf.toList lowerHalf.toList ∧
      ∃ cs, forCalls.scanContent "main.js" (upperHalf ++ lowerHalf) = .ok cs ∧
        cs.map Candidate.hit =
          [⟨2, "CODE_INJECTION", "Code Injection", "eval\\(", "eval(x)"⟩,
           ⟨4, "CODE_INJECTION", "Code Injection", "eval\\(", "eval(x)"⟩] := by
  have hlast : upperHalf.toList.getLast? = some '\r' := by decide
  have hfirst : lowerHalf.toList.head? ≠ some '\n' := by decide
  have happart : Apart upperHalf.toList lowerHalf.toList := by
    intro c hc
    rw [hlast, Option.some_inj] at hc
    exact Or.inr ⟨hc.symm, hfirst⟩
  have hfits : forCalls.Fits (upperHalf ++ lowerHalf) := fits_of_length (by decide)
  have hwhole := scanContent_of_fits hfits "main.js"
  obtain ⟨as, bs, has, hbs, hhits⟩ := (hits_append forCalls "main.js" happart).1 _ hwhole
  obtain ⟨-, rfl⟩ := scanContent_eq_ok_iff.mp has
  obtain ⟨-, rfl⟩ := scanContent_eq_ok_iff.mp hbs
  refine ⟨happart, _, hwhole, hhits.trans ?_⟩
  decide +kernel

-- A line feed behind a carriage return does not begin a line.
example : split ("let a\r" ++ "\nlet b") ≠ split "let a\r" ++ split "\nlet b" := by
  decide

end Scanner

end SinkAudit

import SinkAudit.Config.Load
import SinkAudit.Proofs.Scan.Sinks

/-!
# Windows beyond the largest word

A window that reaches beyond the last line should show all lines from its start on.  Its lower end
stops at the first line, but its upper end is a sum of words that is found before it is compared with the
number of lines.  Where that sum is too large for a word there is no window, though the lines that it
should show are few.

A configuration is not refused for such a window: nothing bounds the number of lines of context.  So it
takes a single line that is to be reported, and the scan of its text fails with it.

* `fullRows`, `clamped`: the window that goes on to the last line.
* `wide_window`: what becomes of a window that reaches the last line, and of a scan with such windows.
-/

namespace SinkAudit.Scan.Window

variable {lines : List String} {target radius : Nat} {line : String}

/-! ## The window that goes on to the last line -/

/-- The rows of all lines from the start of a window on. -/
def fullRows (lines : List String) (target radius : Nat) : List String :=
  rows target (start target radius) (lines.drop (start target radius))

/-- The window whose upper end is the last line. -/
def clamped (lines : List String) (target radius : Nat) : String :=
  Text.concat (fullRows lines target radius)

theorem getElem?_rows (target i : Nat) (ls : List String) (k : Nat) :
    (rows target i ls)[k]? = ls[k]?.map (row target (i + k)) := by
  induction ls generalizing i k with
  | nil => rfl
  | cons l ls ih =>
    cases k with
    | zero => rfl
    | succ k =>
      rw [rows, List.getElem?_cons_succ, List.getElem?_cons_succ, ih, Nat.add_right_comm,
        Nat.add_assoc]

/-- The row of the target stands in the window that goes on to the last line. -/
theorem getElem?_fullRows_target (hline : lines[target]? = some line) (radius : Nat) :
    (fullRows lines target radius)[target - start target radius]? = some (row target target line) := by
  have hindex : start target radius + (target - start target radius) = target := by
    rw [start]
    omega
  rw [fullRows, getElem?_rows, List.getElem?_drop, hindex, hline, Option.map_some]

/-- A plain window that reaches the last line goes on to it. -/
theorem plain_eq_clamped (hreach : lines.length ≤ target + radius + 1) :
    plain lines target radius = clamped lines target radius := by
  rw [plain, text, limit, Nat.min_eq_right hreach, List.take_length, clamped, fullRows]

/-! ## Sums of words -/

/-- **Windows beyond the last line.**  Let a window reach the last line.  If the sum for its upper end is a
word, the window shows all lines from its start on, the target with its mark among them.  If the sum
overflows, there is no window at all, and a scan fails as a whole as soon as one line that is to be
reported has such a window. -/
theorem wide_window (lines : List String) (target radius : Nat) (s : Scanner)
    (path content : String) :
    (∀ line, lines[target]? = some line → lines.length ≤ target + radius + 1 →
      (fullRows lines target radius)[target - (target - radius)]? = some (row target target line) ∧
      (target + radius + 1 < wordSize →
        contextWindow lines target radius = .ok (clamped lines target radius)) ∧
      (wordSize ≤ target + radius + 1 → contextWindow lines target radius = .error .overflow)) ∧
    ∀ n line, Line.numbered? content n = some line → s.IsSink line →
      wordSize ≤ n + s.config.contextLines → s.scanContent path content = .error .overflow := by
  constructor
  · intro line hline hreach
    refine ⟨getElem?_fullRows_target hline radius, fun hbound => ?_, fun hover => ?_⟩
    · rw [contextWindow_of_lt hbound, plain_eq_clamped hreach]
    · exact contextWindow_of_le hover lines
  · intro n line hline hsink hover
    refine Scanner.scanContent_of_not_fits (fun hfits => ?_) path
    have hbound := Scanner.fits_iff_isSink.mp hfits n line hline hsink
    omega

/-- Settings are accepted whatever their number of lines of context, and with the largest one a line has
no window. -/
theorem widest_window_overflows :
    (∀ (c : Config) (n : Nat),
      ({ c with scan := { c.scan with contextLines := n } } : Config).validate = c.validate) ∧
      contextWindow ["a\n", "eval(x)\n", "b\n"] 1 (wordSize - 1) = .error .overflow ∧
      clamped ["a\n", "eval(x)\n", "b\n"] 1 (wordSize - 1) =
        "   1 |   a\n   2 | > eval(x)\n   3 |   b\n" :=
  ⟨fun _ _ => rfl, contextWindow_of_le (by decide) _, by decide +kernel⟩

end SinkAudit.Scan.Window

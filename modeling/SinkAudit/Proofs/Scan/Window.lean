import SinkAudit.Proofs.Scan.Line
import SinkAudit.Proofs.Text.Decimal
import SinkAudit.Scan.Window

/-!
# Reading a window back

A window says which lines it shows.  A row opens with a numeral that blanks cannot be part of, then
comes a fixed separator with the mark, and the text goes on to the line feed.  So nothing that stands
in the text of a line can be taken for the start of a row, and the rows can be read one by one.

Whether there is a window depends on one sum, and what is in it does not.  So a window is looked at as the
plain one, in which the upper end is any number, behind that condition.

* `plain`: the plain window; `contextWindow_of_lt`, `contextWindow_of_le`: the window is this one, or the
  sum overflows.
* `Shown`: what a row shows of a line.
* `Legible.ext`: rows that are put end to end can be told apart.
* `visible`: what a window shows, and `toList_plain`: that this is what is written.
* `eq_of_plain_eq`: a window determines its target.
-/

namespace SinkAudit.Scan.Window

open Text (append_cons_inj padLeft)

/-! ## Plain windows -/

/-- The index after the last line shown, among `count` lines, whatever the sum is. -/
def limit (target radius count : Nat) : Nat :=
  min (target + radius + 1) count

/-- The window, whatever the sum for its upper end is. -/
def plain (lines : List String) (target radius : Nat) : String :=
  text lines target (start target radius) (limit target radius lines.length)

theorem contextWindow_of_lt {target radius : Nat} (h : target + radius + 1 < wordSize)
    (lines : List String) : contextWindow lines target radius = .ok (plain lines target radius) := by
  rw [contextWindow, stop, Word.checked_of_lt h]
  rfl

theorem contextWindow_of_le {target radius : Nat} (h : wordSize ≤ target + radius + 1)
    (lines : List String) : contextWindow lines target radius = .error .overflow := by
  rw [contextWindow, stop, Word.checked_of_le h]
  rfl

/-! ## Rows -/

/-- What a row shows: the number of a line, whether the line is the target, the text of the line, and
whether a terminator closed it. -/
structure Shown where
  number : Nat
  marked : Bool
  text : List Char
  closed : Bool

namespace Shown

/-- What the row of a line shows. -/
def ofLine (target index : Nat) (line : String) : Shown :=
  ⟨index + 1, decide (index = target), (Line.body line).toList, Line.isClosed line⟩

@[simp] theorem text_ofLine (target index : Nat) (line : String) :
    (ofLine target index line).text = (Line.body line).toList := by
  rw [ofLine]

/-- The text behind the number. -/
def tail (x : Shown) : List Char :=
  '|' :: ' ' :: (if x.marked then '>' else ' ') :: ' ' :: x.text ++ if x.closed then ['\n'] else []

/-- The characters of a row. -/
def render (x : Shown) : List Char :=
  (padLeft 4 (toString x.number)).toList ++ ' ' :: x.tail

end Shown

theorem toList_row (target index : Nat) (line : String) :
    (row target index line).toList = (Shown.ofLine target index line).render := by
  have hmark : (if index = target then ">" else " ").toList =
      [if decide (index = target) then '>' else ' '] := by
    split <;> simp [*]
  have hend : (if Line.isClosed line then "\n" else "").toList =
      if Line.isClosed line then ['\n'] else [] := by
    split <;> rfl
  have hbar : " | ".toList = [' ', '|', ' '] := rfl
  have hgap : " ".toList = [' '] := rfl
  rw [row, String.toList_append, String.toList_append, String.toList_append, String.toList_append,
    String.toList_append, hmark, hend, hbar, hgap]
  simp only [Shown.render, Shown.tail, Shown.ofLine, List.append_assoc, List.cons_append,
    List.nil_append]
  rfl

theorem toList_padLeft (n : Nat) (s : String) :
    (padLeft n s).toList = List.replicate (n - s.length) ' ' ++ s.toList := by
  rw [padLeft, Text.spaces, String.toList_append, String.toList_ofList]

/-- The number at the front of a row can be read, whatever follows the blank behind it. -/
theorem padLeft_toString_inj {m n k : Nat} {s t : List Char}
    (h : (padLeft k (toString m)).toList ++ ' ' :: s = (padLeft k (toString n)).toList ++ ' ' :: t) :
    m = n ∧ s = t := by
  have hblank : ∀ k, ∀ c ∈ List.replicate k ' ', (c == ' ') = true := fun k c hc => by
    rw [(List.mem_replicate.mp hc).2]
    rfl
  have hdigit : ∀ {n : Nat} {c : Char}, c ∈ (toString n).toList → (c == ' ') = false :=
    fun hc => beq_false_of_ne (Decimal.ne_of_mem_toString hc (by decide))
  obtain ⟨c, cs, hm⟩ := List.exists_cons_of_ne_nil (Decimal.toList_toString_ne_nil m)
  obtain ⟨d, ds, hn⟩ := List.exists_cons_of_ne_nil (Decimal.toList_toString_ne_nil n)
  rw [toList_padLeft, toList_padLeft, List.append_assoc, List.append_assoc, hm, hn,
    List.cons_append, List.cons_append] at h
  -- The blanks before the two numerals are as many, then the digits agree up to the next blank.
  have hnum := (append_cons_inj (hblank _) (hdigit (hm ▸ List.mem_cons_self)) (hblank _)
    (hdigit (hn ▸ List.mem_cons_self)) h).2
  rw [← List.cons_append, ← List.cons_append, ← hm, ← hn] at hnum
  obtain ⟨hdigits, hrest⟩ := append_cons_inj (fun c hc => Decimal.isDigit_of_mem_toString hc)
    (by decide) (fun c hc => Decimal.isDigit_of_mem_toString hc) (by decide) hnum
  exact ⟨Decimal.toString_injective hdigits, (List.cons.inj hrest).2⟩

/-- Text without a line feed ends at the first line feed, or where all ends. -/
theorem text_inj {x y r s : List Char} {b d : Bool} (hx : '\n' ∉ x) (hy : '\n' ∉ y)
    (hr : b = false → r = []) (hs : d = false → s = [])
    (h : x ++ (if b then ['\n'] else []) ++ r = y ++ (if d then ['\n'] else []) ++ s) :
    x = y ∧ b = d ∧ r = s := by
  have hfree : ∀ {z : List Char}, '\n' ∉ z → ∀ c ∈ z, (c != '\n') = true := by
    intro z hz c hc
    exact bne_iff_ne.mpr fun he => hz (he ▸ hc)
  have hends : ∀ {z w r : List Char}, '\n' ∉ w → z ++ '\n' :: r ≠ w := by
    rintro z w r hw rfl
    exact hw (List.mem_append_right z List.mem_cons_self)
  cases b with
  | true =>
    rw [if_pos rfl, List.append_assoc] at h
    cases d with
    | true =>
      rw [if_pos rfl, List.append_assoc] at h
      obtain ⟨hxy, hrs⟩ := append_cons_inj (hfree hx) rfl (hfree hy) rfl h
      exact ⟨hxy, rfl, (List.cons.inj hrs).2⟩
    | false =>
      rw [hs rfl, List.append_nil, if_neg Bool.false_ne_true, List.append_nil] at h
      exact absurd h (hends hy)
  | false =>
    rw [hr rfl, List.append_nil, if_neg Bool.false_ne_true, List.append_nil] at h
    cases d with
    | true =>
      rw [if_pos rfl, List.append_assoc] at h
      exact absurd h.symm (hends hx)
    | false =>
      rw [hs rfl, List.append_nil, if_neg Bool.false_ne_true, List.append_nil] at h
      exact ⟨h, rfl, (hr rfl).trans (hs rfl).symm⟩

/-- A row can be told from what follows it, if the last row alone may be without a line feed. -/
theorem render_append_inj {x y : Shown} {r s : List Char} (hx : '\n' ∉ x.text) (hy : '\n' ∉ y.text)
    (hr : x.closed = false → r = []) (hs : y.closed = false → s = [])
    (h : x.render ++ r = y.render ++ s) : x = y ∧ r = s := by
  obtain ⟨number, marked, text, closed⟩ := x
  obtain ⟨number', marked', text', closed'⟩ := y
  simp only [Shown.render, Shown.tail, List.append_assoc, List.cons_append] at h
  obtain ⟨rfl, h⟩ := padLeft_toString_inj h
  simp only [List.cons.injEq, true_and, ← List.append_assoc] at h
  obtain ⟨rfl, rfl, hrs⟩ := text_inj hx hy hr hs h.2
  have hmark : marked = marked' := by
    cases marked <;> cases marked' <;> simp at h ⊢
  exact ⟨by rw [hmark], hrs⟩

/-- Rows that can be read: no text goes beyond its row, and a line feed stands between rows. -/
structure Legible (xs : List Shown) : Prop where
  text : ∀ x ∈ xs, '\n' ∉ x.text
  closed : xs.Pairwise fun x _ => x.closed = true

theorem Legible.tail {x : Shown} {xs : List Shown} (h : Legible (x :: xs)) : Legible xs :=
  ⟨fun y hy => h.text y (List.mem_cons_of_mem x hy), (List.pairwise_cons.mp h.closed).2⟩

/-- A row without a line feed is the last one. -/
theorem Legible.eq_nil_of_open {x : Shown} {xs : List Shown} (h : Legible (x :: xs))
    (hx : x.closed = false) : xs = [] := by
  cases xs with
  | nil => rfl
  | cons y ys =>
    have hc := (List.pairwise_cons.mp h.closed).1 y List.mem_cons_self
    exact absurd (hx.symm.trans hc) Bool.false_ne_true

theorem Legible.eq_nil {x : Shown} {xs : List Shown} (h : Legible (x :: xs))
    (hx : x.closed = false) : xs.flatMap Shown.render = [] := by
  rw [h.eq_nil_of_open hx, List.flatMap_nil]

theorem render_ne_nil (x : Shown) (r : List Char) : x.render ++ r ≠ [] := by
  rw [Shown.render, List.append_assoc]
  exact List.append_ne_nil_of_right_ne_nil _ (List.cons_ne_nil _ _)

/-- Rows put end to end can be read back. -/
theorem Legible.ext {xs ys : List Shown} (hx : Legible xs) (hy : Legible ys)
    (h : xs.flatMap Shown.render = ys.flatMap Shown.render) : xs = ys := by
  induction xs generalizing ys with
  | nil =>
    cases ys with
    | nil => rfl
    | cons y ys =>
      rw [List.flatMap_cons] at h
      exact absurd h.symm (render_ne_nil y _)
  | cons x xs ih =>
    cases ys with
    | nil =>
      rw [List.flatMap_cons] at h
      exact absurd h (render_ne_nil x _)
    | cons y ys =>
      rw [List.flatMap_cons, List.flatMap_cons] at h
      obtain ⟨rfl, hrest⟩ := render_append_inj (hx.text x List.mem_cons_self)
        (hy.text y List.mem_cons_self) hx.eq_nil hy.eq_nil h
      rw [ih hx.tail hy.tail hrest]

/-! ## Windows -/

/-- What the rows for a run of lines show. -/
def shown (target : Nat) : Nat → List String → List Shown
  | _, [] => []
  | i, l :: ls => Shown.ofLine target i l :: shown target (i + 1) ls

/-- What a window shows. -/
def visible (lines : List String) (target radius : Nat) : List Shown :=
  shown target (start target radius)
    ((lines.take (limit target radius lines.length)).drop (start target radius))

theorem toList_concat_rows (target i : Nat) (ls : List String) :
    (Text.concat (rows target i ls)).toList = (shown target i ls).flatMap Shown.render := by
  induction ls generalizing i with
  | nil => rfl
  | cons l ls ih =>
    have hcons : Text.concat (rows target i (l :: ls)) =
        row target i l ++ Text.concat (rows target (i + 1) ls) := rfl
    rw [hcons, String.toList_append, toList_row, ih, shown, List.flatMap_cons]

theorem toList_plain (lines : List String) (target radius : Nat) :
    (plain lines target radius).toList =
      (visible lines target radius).flatMap Shown.render :=
  toList_concat_rows _ _ _

theorem mem_shown {target i : Nat} {ls : List String} {x : Shown} :
    x ∈ shown target i ls ↔ ∃ k line, ls[k]? = some line ∧ x = Shown.ofLine target (i + k) line := by
  induction ls generalizing i with
  | nil => simp [shown]
  | cons l ls ih =>
    rw [shown, List.mem_cons, ih]
    exact (Line.exists_getElem?_cons fun index line => x = Shown.ofLine target index line).symm

/-- A window shows the lines from its start up to its limit. -/
theorem mem_visible {lines : List String} {target radius : Nat} {x : Shown} :
    x ∈ visible lines target radius ↔
      ∃ index line, start target radius ≤ index ∧ index < limit target radius lines.length ∧
        lines[index]? = some line ∧ x = Shown.ofLine target index line := by
  rw [visible, mem_shown]
  constructor
  · rintro ⟨k, line, hk, rfl⟩
    rw [List.getElem?_drop, List.getElem?_take] at hk
    split at hk
    case isTrue hlt => exact ⟨_, line, Nat.le_add_right _ k, hlt, hk, rfl⟩
    case isFalse => exact absurd hk.symm (Option.some_ne_none line)
  · rintro ⟨index, line, hstart, hlimit, hline, rfl⟩
    obtain ⟨k, rfl⟩ := Nat.exists_eq_add_of_le hstart
    refine ⟨k, line, ?_, rfl⟩
    rw [List.getElem?_drop, List.getElem?_take, if_pos hlimit, hline]

theorem legible_shown {target i : Nat} {ls : List String}
    (hbody : ∀ l ∈ ls, '\n' ∉ (Line.body l).toList)
    (hclosed : ls.Pairwise fun l _ => Line.isClosed l = true) : Legible (shown target i ls) := by
  induction ls generalizing i with
  | nil => exact ⟨fun x hx => (nomatch hx), .nil⟩
  | cons l ls ih =>
    obtain ⟨hl, hls⟩ := List.forall_mem_cons.mp hbody
    obtain ⟨hfirst, hrest⟩ := List.pairwise_cons.mp hclosed
    have htail := ih (i := i + 1) hls hrest
    rw [shown]
    refine ⟨fun x hx => ?_, List.pairwise_cons.mpr ⟨fun x hx => ?_, htail.closed⟩⟩
    · rcases List.mem_cons.mp hx with rfl | hx
      · rwa [Shown.text_ofLine]
      · exact htail.text x hx
    · obtain ⟨k, line, hk, -⟩ := mem_shown.mp hx
      exact hfirst line (List.mem_of_getElem? hk)

theorem legible_visible (content : String) (target radius : Nat) :
    Legible (visible (Line.split content) target radius) := by
  have hsub : List.Sublist (((Line.split content).take
      (limit target radius (Line.split content).length)).drop (start target radius))
      (Line.split content) :=
    (List.drop_sublist _ _).trans (List.take_sublist _ _)
  refine legible_shown (fun l hl hn => ?_) ((Line.pairwise_isClosed content).sublist hsub)
  exact absurd (Line.isTerminator_of_mem_body (hsub.subset hl) hn) (by decide)

/-- A window shows its target. -/
theorem target_mem_visible {lines : List String} {target : Nat} {line : String}
    (hline : lines[target]? = some line) (radius : Nat) :
    Shown.ofLine target target line ∈ visible lines target radius := by
  obtain ⟨hlt, -⟩ := List.getElem?_eq_some_iff.mp hline
  refine mem_visible.mpr ⟨target, line, Nat.sub_le target radius, ?_, hline, rfl⟩
  rw [limit]
  omega

/-- A window determines which line is its target and what stands in it. -/
theorem eq_of_plain_eq {content content' : String} {target target' radius radius' : Nat}
    {line line' : String} (hline : (Line.split content)[target]? = some line)
    (hline' : (Line.split content')[target']? = some line')
    (h : plain (Line.split content) target radius = plain (Line.split content') target' radius') :
    target = target' ∧ Line.body line = Line.body line' := by
  have hvisible : visible (Line.split content) target radius =
      visible (Line.split content') target' radius' := by
    refine (legible_visible content target radius).ext (legible_visible content' target' radius') ?_
    rw [← toList_plain, ← toList_plain, h]
  -- The row of the one target is a row of the other window, and only targets are marked.
  have hmem := target_mem_visible hline radius
  rw [hvisible] at hmem
  obtain ⟨index, shownLine, -, -, hindex, hrow⟩ := mem_visible.mp hmem
  have hnumber : target = index := Nat.succ.inj (congrArg Shown.number hrow)
  have hmark : decide (index = target') = true :=
    (congrArg Shown.marked hrow).symm.trans (decide_eq_true rfl)
  have heq : index = target' := of_decide_eq_true hmark
  rw [heq, hline'] at hindex
  have htext := congrArg Shown.text hrow
  rw [Shown.text_ofLine, Shown.text_ofLine, ← Option.some.inj hindex] at htext
  exact ⟨hnumber.trans heq, String.toList_inj.mp htext⟩

end SinkAudit.Scan.Window

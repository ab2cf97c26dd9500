import SinkAudit.Json.Printer
import SinkAudit.Json.Token
import SinkAudit.Proofs.Text.Decimal
import Mathlib.Data.List.TakeWhile
import Mathlib.Tactic.SplitIfs

/-!
# Lexing what was written

The lexer reads back each kind of token that the printer writes.  A string ends with its own quote,
but a word or a number ends only with the first character that cannot belong to it, so after one of
these the lexer is not idle.  `Lexer.Holds x out` says that this makes no difference: the lexer has
read the tokens `out`, and a character that separates tokens is read as if nothing were pending.

* `units?_escapeChar`, `pair?_escapeUnit`: an escaped character is resolved to the character.
* `run_quote`, `run_quoteText`: a quoted text is one token.
* `run_toString`: a numeral is one token.
* `settle_snoc_gap`: a blank at the end of a text changes none of its tokens.
-/

namespace SinkAudit

namespace Lexer

/-- Reading one text after another. -/
theorem run_append (x : Lexer) (s t : List Char) :
    x.run (s ++ t) = (x.run s).bind fun y => y.run t := by
  induction s generalizing x with
  | nil => rfl
  | cons c s ih =>
    simp only [List.cons_append, run]
    cases x.feed c with
    | none => rfl
    | some y => exact ih y

/-! ## Strings -/

/-- The two readings of a hexadecimal digit agree, and it stands for itself inside a string. -/
theorem hexDigit?_hexDigit {n : Nat} (h : n < 16) :
    Text.hexDigit? (Digest.hexDigit n) = some n ∧ Digest.hexDigit n ≠ '"' ∧
      Digest.hexDigit n ≠ '\\' ∧ ¬ (Digest.hexDigit n).toNat < 0x20 := by
  have hall : ∀ k : Fin 16, Text.hexDigit? (Digest.hexDigit k.val) = some k.val ∧
      Digest.hexDigit k.val ≠ '"' ∧ Digest.hexDigit k.val ≠ '\\' ∧
        ¬ (Digest.hexDigit k.val).toNat < 0x20 := by decide
  exact hall ⟨n, h⟩

/-- Inside a string, an escaped character is collected as it stands. -/
theorem run_escapeChar (c : Char) (w : List Char) (out : List JsonToken) (r : List Char) :
    run ⟨.string w, out⟩ (Json.escapeChar c ++ r) =
      run ⟨.string ((Json.escapeChar c).reverse ++ w), out⟩ r := by
  unfold Json.escapeChar
  split_ifs with hq hb h1 h2 h3 h4 h5 hc
  · rfl
  · rfl
  · rfl
  · rfl
  · rfl
  · rfl
  · rfl
  · -- a control character: the two last digits are not known, but they are plain
    obtain ⟨-, hq1, hb1, hc1⟩ := hexDigit?_hexDigit (n := c.toNat / 16) (by omega)
    obtain ⟨-, hq2, hb2, hc2⟩ := hexDigit?_hexDigit (n := c.toNat % 16) (by omega)
    simp [run, feed, hq1, hb1, hc1, hq2, hb2, hc2]
  · simp [run, feed, hq, hb, hc]

/-- Inside a string, escaped characters are collected as they stand. -/
theorem run_flatMap_escapeChar (s w : List Char) (out : List JsonToken) (r : List Char) :
    run ⟨.string w, out⟩ (s.flatMap Json.escapeChar ++ r) =
      run ⟨.string ((s.flatMap Json.escapeChar).reverse ++ w), out⟩ r := by
  induction s generalizing w with
  | nil => rfl
  | cons c s ih =>
    rw [List.flatMap_cons, List.append_assoc, run_escapeChar, ih, List.reverse_append,
      List.append_assoc]

end Lexer

namespace CodeUnit

/-- What an escaped character is resolved to first: a code unit if its number was written. -/
def escapeUnit (c : Char) : CodeUnit :=
  if c.toNat < 0x20 ∧ c ≠ '\x08' ∧ c ≠ '\t' ∧ c ≠ '\n' ∧ c ≠ '\x0c' ∧ c ≠ '\r' then .code c.toNat
  else .char c

theorem units?_cons {c : Char} (h : c ≠ '\\') (r : List Char) :
    units? (c :: r) = (units? r).map (.char c :: ·) := by
  rw [units?.eq_def]
  split
  all_goals simp_all

theorem units?_code (a b c d : Char) (r : List Char) :
    units? ('\\' :: 'u' :: a :: b :: c :: d :: r) =
      (hex4? a b c d).bind fun n => (units? r).map (.code n :: ·) := by
  rw [units?]
  cases hex4? a b c d <;> cases units? r <;> rfl

/-- An escaped character is resolved to its unit. -/
theorem units?_escapeChar (c : Char) (r : List Char) :
    units? (Json.escapeChar c ++ r) = (units? r).map (escapeUnit c :: ·) := by
  unfold Json.escapeChar
  split_ifs with hq hb h1 h2 h3 h4 h5 hc
  all_goals try
    rw [beq_iff_eq] at *
    subst c
    cases hr : units? r <;> simp [units?, hr, escape?, escapeUnit]
  · obtain ⟨hd1, -⟩ := Lexer.hexDigit?_hexDigit (n := c.toNat / 16) (by omega)
    obtain ⟨hd2, -⟩ := Lexer.hexDigit?_hexDigit (n := c.toNat % 16) (by omega)
    have hz : Text.hexDigit? '0' = some 0 := by decide
    have hn : ((0 * 16 + 0) * 16 + c.toNat / 16) * 16 + c.toNat % 16 = c.toNat := by omega
    rw [List.cons_append, List.cons_append, List.cons_append, List.cons_append, List.cons_append,
      List.cons_append, List.nil_append, units?_code, hex4?, hz, hd1, hd2]
    simp only [Option.bind_some, hn]
    have hunit : escapeUnit c = .code c.toNat := by
      simp only [beq_iff_eq] at h1 h2 h3 h4 h5
      rw [escapeUnit, if_pos ⟨hc, h1, h2, h3, h4, h5⟩]
    rw [hunit]
  · have hunit : escapeUnit c = .char c := by
      rw [escapeUnit, if_neg (fun h => hc h.1)]
    rw [hunit, List.cons_append, List.nil_append, units?_cons (by simpa using hb)]

/-- The unit of a character stands for the character. -/
theorem pair?_escapeUnit (c : Char) (us : List CodeUnit) :
    pair? (escapeUnit c :: us) = (pair? us).map (c :: ·) := by
  rw [escapeUnit]
  split_ifs with h
  · have hhigh : isHigh c.toNat = false := by
      simp only [isHigh, Bool.and_eq_false_iff, decide_eq_false_iff_not]
      omega
    have hlow : isLow c.toNat = false := by
      simp only [isLow, Bool.and_eq_false_iff, decide_eq_false_iff_not]
      omega
    rw [pair?.eq_def]
    simp only [hhigh, hlow, Char.ofNat_toNat, Bool.false_eq_true, if_false]
  · rw [pair?]

/-- Escaping is undone by resolving the escapes. -/
theorem exists_units?_flatMap_escapeChar (s : List Char) :
    ∃ us, units? (s.flatMap Json.escapeChar) = some us ∧ pair? us = some s := by
  induction s with
  | nil => exact ⟨[], rfl, rfl⟩
  | cons c s ih =>
    obtain ⟨us, hus, hs⟩ := ih
    refine ⟨escapeUnit c :: us, ?_, ?_⟩
    · rw [List.flatMap_cons, units?_escapeChar, hus, Option.map_some]
    · rw [pair?_escapeUnit, hs, Option.map_some]

end CodeUnit

namespace Lexer

theorem string?_flatMap_escapeChar (s : List Char) :
    string? (s.flatMap Json.escapeChar) = some (.str (some (String.ofList s))) := by
  obtain ⟨us, hus, hs⟩ := CodeUnit.exists_units?_flatMap_escapeChar s
  rw [string?, hus, Option.map_some, hs, Option.map_some]

/-- A quoted string is one token. -/
theorem run_quote (s : String) (out : List JsonToken) (r : List Char) :
    run ⟨.idle, out⟩ ((Json.quote s).toList ++ r) = run ⟨.idle, .str (some s) :: out⟩ r := by
  have hstart : start out '"' = some ⟨.string [], out⟩ := rfl
  have hend : feed ⟨.string (s.toList.flatMap Json.escapeChar).reverse, out⟩ '"' =
      some ⟨.idle, .str (some s) :: out⟩ := by
    simp only [feed, beq_self_eq_true, if_true, List.reverse_reverse]
    rw [string?_flatMap_escapeChar, Option.map_some, String.ofList_toList]
  rw [Json.quote]
  simp only [String.toList_append, String.toList_ofList, List.append_assoc]
  change run ⟨.idle, out⟩ ('"' :: (s.toList.flatMap Json.escapeChar ++ ('"' :: r))) = _
  rw [run]
  simp only [feed, hstart]
  rw [run_flatMap_escapeChar, List.append_nil, run, hend]

/-- A quoted text is one token, also if it stands for no string. -/
theorem run_quoteText (t : Option String) (out : List JsonToken) (r : List Char) :
    run ⟨.idle, out⟩ ((Json.quoteText t).toList ++ r) = run ⟨.idle, .str t :: out⟩ r := by
  cases t with
  | none =>
    have hchars : (Json.quoteText none).toList = ['"', '\\', 'u', 'd', '8', '0', '0', '"'] := by
      simp [Json.quoteText]
    rw [hchars]
    rfl
  | some s => exact run_quote s out r

/-! ## Words and numbers -/

/-- Whether a character separates two tokens: it belongs to no word and to no number. -/
def isSeparator (c : Char) : Bool :=
  !c.isLower && !isNumeric c

/-- The lexer has read the tokens `out`, whether or not it has noticed the end of the last. -/
structure Holds (x : Lexer) (out : List JsonToken) : Prop where
  settle_eq : x.settle = some ⟨.idle, out⟩
  feed_eq : ∀ c, isSeparator c = true → x.feed c = start out c

theorem holds_idle (out : List JsonToken) : Holds ⟨.idle, out⟩ out :=
  ⟨rfl, fun _ _ => rfl⟩

theorem holds_word {w : List Char} {t : JsonToken} (out : List JsonToken)
    (h : word? w.reverse = some t) : Holds ⟨.word w, out⟩ (t :: out) := by
  have hs : settle ⟨.word w, out⟩ = some ⟨.idle, t :: out⟩ := by
    simp only [settle, h, Option.map_some]
  refine ⟨hs, fun c hc => ?_⟩
  have hl : c.isLower = false := by
    simp only [isSeparator, Bool.and_eq_true, Bool.not_eq_true'] at hc
    exact hc.1
  simp only [feed, hl, hs, Option.bind_some, Bool.false_eq_true, if_false]

theorem holds_number {w : List Char} {n : Number} (out : List JsonToken)
    (h : Number.parse? w.reverse = some n) : Holds ⟨.number w, out⟩ (.num n :: out) := by
  have hs : settle ⟨.number w, out⟩ = some ⟨.idle, .num n :: out⟩ := by
    simp only [settle, h, Option.map_some]
  refine ⟨hs, fun c hc => ?_⟩
  have hl : isNumeric c = false := by
    simp only [isSeparator, Bool.and_eq_true, Bool.not_eq_true'] at hc
    exact hc.2
  simp only [feed, hl, hs, Option.bind_some, Bool.false_eq_true, if_false]

/-- Digits go on with a number. -/
theorem run_digits (w : List Char) (out : List JsonToken) :
    ∀ ds : List Char, (∀ c ∈ ds, c.isDigit = true) →
      run ⟨.number w, out⟩ ds = some ⟨.number (ds.reverse ++ w), out⟩
  | [], _ => rfl
  | d :: ds, h => by
    have hd : isNumeric d = true := by
      simp only [isNumeric, h d List.mem_cons_self, Bool.true_or]
    have hfeed : feed ⟨.number w, out⟩ d = some ⟨.number (d :: w), out⟩ := by
      simp only [feed, hd, if_true]
    rw [run, hfeed]
    simp only
    rw [run_digits (d :: w) out ds fun c hc => h c (List.mem_cons_of_mem _ hc),
      List.reverse_cons, List.append_assoc, List.singleton_append]

/-- A digit that starts something new starts a number. -/
theorem start_digit {c : Char} (h : c.isDigit = true) (out : List JsonToken) :
    start out c = some ⟨.number [c], out⟩ := by
  have hne : ∀ d : Char, d.isDigit = false → (c == d) = false := by
    intro d hd
    rw [beq_eq_false_iff_ne]
    rintro rfl
    rw [h] at hd
    exact Bool.noConfusion hd
  simp [start, hne, h]

/-- The number that a numeral writes. -/
theorem parse?_toString (n : Nat) : Number.parse? (toString n).toList = some (.nat n) := by
  have hall : ∀ c ∈ (toString n).toList, c.isDigit = true :=
    fun c hc => Decimal.isDigit_of_mem_toString hc
  have htake : (toString n).toList.takeWhile Char.isDigit = (toString n).toList :=
    List.takeWhile_eq_self_iff.mpr hall
  have hdrop : (toString n).toList.dropWhile Char.isDigit = [] :=
    List.dropWhile_eq_nil_iff.mpr hall
  have hneg : ∀ r, (toString n).toList ≠ '-' :: r := by
    intro r hr
    have := hall '-' (by rw [hr]; exact List.mem_cons_self)
    exact absurd this (by decide)
  rw [Number.parse?]
  · simp only [htake, hdrop, Decimal.isWhole_toString, Decimal.decimal_toString]
    rfl
  · exact fun r hr => hneg r hr

/-- A numeral is one token. -/
theorem run_toString (n : Nat) (out : List JsonToken) :
    ∃ x, run ⟨.idle, out⟩ (toString n).toList = some x ∧ Holds x (.num (.nat n) :: out) := by
  have hall : ∀ c ∈ (toString n).toList, c.isDigit = true :=
    fun c hc => Decimal.isDigit_of_mem_toString hc
  have hparse := parse?_toString n
  cases hs : (toString n).toList with
  | nil => exact absurd hs (Decimal.toList_toString_ne_nil n)
  | cons d ds =>
    rw [hs] at hall hparse
    refine ⟨⟨.number (ds.reverse ++ [d]), out⟩, ?_, ?_⟩
    · rw [run]
      simp only [feed, start_digit (hall d List.mem_cons_self)]
      exact run_digits [d] out ds fun c hc => hall c (List.mem_cons_of_mem _ hc)
    · apply holds_number
      rwa [List.reverse_append, List.reverse_reverse]

/-! ## A blank at the end -/

/-- Whether a character is blank to the lexer. -/
def isGap (c : Char) : Bool :=
  c == ' ' || c == '\t' || c == '\n' || c == '\r'

/-- A blank at the end of a text changes none of its tokens. -/
theorem settle_snoc_gap (x : Lexer) {c : Char} (hc : isGap c = true) :
    (x.feed c).bind settle = x.settle := by
  have hcases : c = ' ' ∨ c = '\t' ∨ c = '\n' ∨ c = '\r' := by
    simpa only [isGap, Bool.or_eq_true, beq_iff_eq, or_assoc] using hc
  have hstart : ∀ out, start out c = some ⟨.idle, out⟩ := by
    intro out
    rcases hcases with rfl | rfl | rfl | rfl <;> rfl
  have hlow : c.isLower = false := by
    rcases hcases with rfl | rfl | rfl | rfl <;> rfl
  have hnum : isNumeric c = false := by
    rcases hcases with rfl | rfl | rfl | rfl <;> rfl
  obtain ⟨mode, out⟩ := x
  cases mode with
  | idle => simp only [feed, hstart, Option.bind_some, settle]
  | word w =>
    simp only [feed, hlow, Bool.false_eq_true, if_false, settle]
    cases word? w.reverse with
    | none => rfl
    | some t => simp only [Option.map_some, Option.bind_some, hstart, settle]
  | number w =>
    simp only [feed, hnum, Bool.false_eq_true, if_false, settle]
    cases Number.parse? w.reverse with
    | none => rfl
    | some n => simp only [Option.map_some, Option.bind_some, hstart, settle]
  | string w =>
    rcases hcases with rfl | rfl | rfl | rfl <;> rfl
  | escape w => rfl

/-- Blanks at the end of a text change none of its tokens. -/
theorem tokens?_append_gap (s : List Char) {c : Char} (hc : isGap c = true) :
    Json.tokens? (s ++ [c]) = Json.tokens? s := by
  rw [Json.tokens?, Json.tokens?, run_append]
  cases hs : initial.run s with
  | none => rfl
  | some x =>
    have hfeed : x.run [c] = x.feed c := by
      rw [run]
      cases x.feed c <;> rfl
    simp only [Option.bind_some, hfeed]
    rw [settle_snoc_gap x hc]

end Lexer

end SinkAudit

import SinkAudit.Proofs.Json.Steps
import SinkAudit.Verdict.Reply

/-!
# The end of an object

The scan for the end of an object goes by quotes, backslashes and braces only.  On a text that is a
value it follows the lexer: it is inside a string where the lexer is, and it counts the braces that the
lexer finds (`Lexer.scan_feed`).  The first brace of such a text stays open until the last one closes it
(`Lexer.depth_pos_of_parse?`), so the scan takes the whole text, whatever follows.

* `Lexer.scan`: what the scan knows of a lexer.
* `Reply.extractObject?_of_parse?`: the object that is found in a text that is a value.
* `Reply.balanced?_append`, `Reply.prefix_of_balanced?`: the scan does not look beyond its object.
-/

namespace SinkAudit

open Reply (BraceState balanced? extractObject?)

namespace Lexer

variable {x y : Lexer} {c : Char}

/-- What the scan knows of a lexer. -/
def scan (x : Lexer) : BraceState :=
  ⟨JsonMachine.depth x.out, x.quoted, match x.mode with
    | .escape _ => true
    | _ => false⟩

theorem depth_settle (h : x.settle = some y) :
    JsonMachine.depth y.out = JsonMachine.depth x.out := by
  rcases Json.settle_cases h with rfl | ⟨t, ht, hout⟩
  · rfl
  · rw [hout]
    cases ht <;> rfl

/-- Outside of strings only quotes and braces count. -/
theorem next_of_plain (p : Char → Bool) (hc : p c = true) (hquote : p '"' = false)
    (hopen : p '\x7b' = false) (hclose : p '\x7d' = false) (d : Nat) :
    BraceState.next ⟨d, false, false⟩ c = ⟨d, false, false⟩ := by
  have hne : ∀ e, p e = false → (c == e) = false := by
    intro e he
    refine beq_false_of_ne fun heq => ?_
    rw [heq, he] at hc
    exact absurd hc (by decide)
  simp [BraceState.next, hne _ hquote, hne _ hopen, hne _ hclose]

/-- Where the lexer starts something new, the scan counts braces and looks for quotes. -/
theorem scan_starts {out : List JsonToken} (h : Starts c out y) :
    y.scan = BraceState.next ⟨JsonMachine.depth out, false, false⟩ c := by
  cases h with
  | gap hc => exact (next_of_plain isGap hc rfl rfl rfl _).symm
  | mark hc => cases hc <;> rfl
  | quote hc =>
    subst hc
    rfl
  | digit hc => exact (next_of_plain isNumeric hc rfl rfl rfl _).symm
  | letter hc => exact (next_of_plain Char.isLower hc rfl rfl rfl _).symm

/-- The scan follows the lexer. -/
theorem scan_feed (h : x.feed c = some y) : y.scan = x.scan.next c := by
  cases step_of_feed h with
  | close hc ht =>
    obtain ⟨t, rfl⟩ := string?_eq_some ht
    subst hc
    rfl
  | backslash hc =>
    subst hc
    rfl
  | collect hquote hslash =>
    simp [scan, quoted, BraceState.next, beq_false_of_ne hquote, beq_false_of_ne hslash]
  | escaped => rfl
  | letter hc => exact (next_of_plain Char.isLower hc rfl rfl rfl _).symm
  | digit hc => exact (next_of_plain isNumeric hc rfl rfl rfl _).symm
  | next hu hstart =>
    have hidle : x.scan = ⟨JsonMachine.depth x.out, false, false⟩ := by
      have hquoted := quoted_of_settle hu
      obtain ⟨mode, out⟩ := x
      cases mode with
      | string w => exact absurd hquoted (by simp [quoted])
      | escape w => exact absurd hquoted (by simp [quoted])
      | _ => rfl
    rw [hidle, scan_starts hstart, depth_settle hu]

/-- Until the last brace of a value, the first one is open. -/
theorem depth_pos_of_parse? {p r : List Char} {v : Json}
    (h : Json.parse? (String.ofList ('\x7b' :: (p ++ (r ++ ['\x7d'])))) = some v)
    (hx : initial.run ('\x7b' :: p) = some x) : 0 < JsonMachine.depth x.out := by
  have htokens := Json.tokens?_of_parse? h
  rw [String.toList_ofList, ← List.cons_append] at htokens
  obtain ⟨t, us, hts⟩ := Json.exists_tokens?_append hx htokens
  obtain ⟨m, hm⟩ : ∃ m, JsonMachine.initial.run (x.out.reverse ++ t :: us) = some m := by
    have hrun := JsonMachine.run_toTokens v [] []
    rw [List.append_nil, hts] at hrun
    exact ⟨_, hrun⟩
  rw [run_openBrace] at hx
  obtain ⟨new, hnew⟩ := suffix_run hx
  have hfirst : x.out.reverse = .openBrace :: new.reverse := by
    rw [← hnew, List.reverse_append]
    rfl
  exact JsonMachine.depth_pos hfirst hm

end Lexer

namespace Reply

/-- A closing brace closes one brace or, inside a string, none. -/
theorem depth_next_closeBrace (b : BraceState) :
    (b.next '\x7d').depth = b.depth ∨ (b.next '\x7d').depth = b.depth - 1 := by
  unfold BraceState.next
  split_ifs <;> simp_all

/-- The scan of a value takes all of it. -/
theorem balanced?_of_parse? {p r : List Char} {x : Lexer} {v : Json}
    (h : Json.parse? (String.ofList ('\x7b' :: (p ++ (r ++ ['\x7d'])))) = some v)
    (hx : Lexer.initial.run ('\x7b' :: p) = some x) :
    balanced? x.scan (r ++ ['\x7d']) = some (r ++ ['\x7d']) := by
  have hpos := Lexer.depth_pos_of_parse? h hx
  obtain ⟨y, z, hy, hsettle, hout⟩ := Json.tokens?_eq_some (Json.tokens?_of_parse? h)
  rw [String.toList_ofList, ← List.cons_append, Lexer.run_append, hx, Option.bind_some] at hy
  induction r generalizing p x with
  | nil =>
    obtain ⟨u, hfeed, hnil⟩ := Lexer.run_cons_eq_some hy
    obtain rfl : u = y := Option.some.inj hnil
    -- The last machine has nothing open, so the last brace closes the only one that is.
    have hend : JsonMachine.depth u.out = 0 := by
      have hrun := JsonMachine.run_toTokens v [] []
      rw [List.append_nil, hout] at hrun
      rw [← Lexer.depth_settle hsettle, JsonMachine.depth_eq_count hrun]
      rfl
    have hscan := Lexer.scan_feed hfeed
    have hdepth : (x.scan.next '\x7d').depth = 0 := hscan ▸ hend
    have hone : x.scan.depth = 1 := by
      have hpos' : 0 < x.scan.depth := hpos
      rcases depth_next_closeBrace x.scan with hsame | hless <;> omega
    have hcloses : x.scan.closes (x.scan.next '\x7d') = true := by
      rw [BraceState.closes, hone, hdepth]
      rfl
    rw [List.nil_append]
    simp only [balanced?, hcloses, if_true]
  | cons c r ih =>
    rw [List.cons_append] at hy
    obtain ⟨u, hfeed, hrest⟩ := Lexer.run_cons_eq_some hy
    have hsplit : p ++ (c :: r ++ ['\x7d']) = (p ++ [c]) ++ (r ++ ['\x7d']) := by
      rw [List.append_assoc, List.cons_append, List.singleton_append]
    have hu : Lexer.initial.run ('\x7b' :: (p ++ [c])) = some u := by
      rw [← List.cons_append, Lexer.run_append, hx, Option.bind_some, Lexer.run, hfeed]
      rfl
    rw [hsplit] at h
    have hpos' := Lexer.depth_pos_of_parse? h hu
    have hscan := Lexer.scan_feed hfeed
    have hcloses : x.scan.closes (x.scan.next c) = false := by
      rw [← hscan, BraceState.closes]
      have hopen : (u.scan.depth == 0) = false := beq_false_of_ne (Nat.ne_of_gt hpos')
      rw [hopen, Bool.and_false]
    rw [List.cons_append]
    simp only [balanced?, hcloses, Bool.false_eq_true, if_false]
    rw [← hscan, ih h hu hpos' hrest, Option.map_some]

/-- The object that is found in a value that is one is the whole value. -/
theorem extractObject?_of_parse? {s : List Char} {v : Json}
    (h : Json.parse? (String.ofList ('\x7b' :: (s ++ ['\x7d']))) = some v) :
    extractObject? ('\x7b' :: (s ++ ['\x7d'])) = some ('\x7b' :: (s ++ ['\x7d'])) := by
  have hscan : balanced? (Lexer.scan ⟨.idle, [.openBrace]⟩) (s ++ ['\x7d']) = some (s ++ ['\x7d']) :=
    balanced?_of_parse? (p := []) h rfl
  have hfirst : BraceState.next ⟨0, false, false⟩ '\x7b' = Lexer.scan ⟨.idle, [.openBrace]⟩ := rfl
  have hcloses : BraceState.closes ⟨0, false, false⟩ (Lexer.scan ⟨.idle, [.openBrace]⟩) = false := rfl
  rw [extractObject?, List.dropWhile_cons_of_neg (by decide)]
  simp only [balanced?, hfirst, hcloses, Bool.false_eq_true, if_false]
  rw [hscan, Option.map_some]

theorem balanced?_append {b : BraceState} {s t o : List Char} (h : balanced? b s = some o) :
    balanced? b (s ++ t) = some o := by
  induction s generalizing b o with
  | nil => exact absurd h (by simp [balanced?])
  | cons c s ih =>
    rw [List.cons_append]
    simp only [balanced?] at h ⊢
    split at h
    case isTrue hclose => rw [if_pos hclose, h]
    case isFalse hclose =>
      obtain ⟨o', ho', rfl⟩ := Option.map_eq_some_iff.mp h
      rw [if_neg hclose, ih ho', Option.map_some]

theorem prefix_of_balanced? {b : BraceState} {s o : List Char} (h : balanced? b s = some o) :
    o <+: s := by
  induction s generalizing b o with
  | nil => exact absurd h (by simp [balanced?])
  | cons c s ih =>
    simp only [balanced?] at h
    split at h
    case isTrue =>
      rw [← Option.some.inj h]
      exact ⟨s, rfl⟩
    case isFalse =>
      obtain ⟨o', ho', rfl⟩ := Option.map_eq_some_iff.mp h
      exact (List.prefix_cons_inj c).mpr (ih ho')

end Reply

end SinkAudit

import SinkAudit.Proofs.Json.Codec
import SinkAudit.Proofs.Text.Blank
import SinkAudit.Proofs.Verdict.Extraction

/-!
# Replies with prose around the verdict

A reply may have words and fences in front of its object and behind it.  The object is found again for
three reasons.

Fence marks are taken out on either side and never across the two braces, since no mark has a brace in
it (`stripFences_surrounded`).

The scan for the end of an object takes the whole of a text that is a value, whatever follows
(`extractObject?_of_parse?`).

The reply as a whole may be a verdict too.  If nothing stands in front of the object, the scan finds
both, so they are the same.  If something does, the reply would have to be an array of plain values with
the object inside a string; but then the name of a field would have to be read as tokens, which it
cannot be (`verdictOfText?_enclosed`).
-/

namespace SinkAudit

/-! ## Fence marks -/

namespace Reply

variable {word p s x : List Char} {c : Char}

/-- A word does not reach beyond a character that is not in it. -/
theorem isPrefixOf_append_cons (hc : c ∉ word) :
    word.isPrefixOf (p ++ c :: x) = word.isPrefixOf p := by
  induction word generalizing p with
  | nil => cases p <;> rfl
  | cons d word ih =>
    have hne : (d == c) = false := beq_false_of_ne (List.ne_of_not_mem_cons hc).symm
    cases p with
    | nil => simp [List.isPrefixOf, hne]
    | cons e p =>
      rw [List.cons_append, List.isPrefixOf, List.isPrefixOf, ih (List.not_mem_of_not_mem_cons hc)]

theorem eraseFrom_append_cons (hne : word ≠ []) (hc : c ∉ word) {skip : Nat}
    (hskip : skip ≤ p.length) :
    eraseFrom word skip (p ++ c :: x) = eraseFrom word skip p ++ c :: eraseFrom word 0 x := by
  induction p generalizing skip with
  | nil =>
    obtain rfl : skip = 0 := Nat.le_zero.mp hskip
    have hfalse : word.isPrefixOf (c :: x) = false := by
      obtain ⟨d, word, rfl⟩ := List.exists_cons_of_ne_nil hne
      exact isPrefixOf_append_cons (p := []) hc
    have hkept : eraseFrom word 0 (c :: x) = c :: eraseFrom word 0 x := by
      rw [eraseFrom, hfalse, if_neg Bool.false_ne_true]
    rw [List.nil_append, hkept]
    rfl
  | cons d p ih =>
    cases skip with
    | succ skip =>
      rw [List.cons_append, eraseFrom, eraseFrom, ih (Nat.le_of_succ_le_succ hskip)]
    | zero =>
      rw [List.cons_append, eraseFrom, eraseFrom, ← List.cons_append, isPrefixOf_append_cons hc]
      split
      case isTrue hprefix =>
        have hlength := (List.isPrefixOf_iff_prefix.mp hprefix).length_le
        rw [List.length_cons] at hlength
        exact ih (by omega)
      case isFalse => rw [ih (Nat.zero_le _), List.cons_append]

/-- Words are erased on either side of a character that is in none of them. -/
theorem eraseAll_append_cons (hne : word ≠ []) (hc : c ∉ word) :
    eraseAll word (p ++ c :: x) = eraseAll word p ++ c :: eraseAll word x :=
  eraseFrom_append_cons hne hc (Nat.zero_le _)

theorem eraseAll_of_not_infix (h : ¬ word <:+: s) : eraseAll word s = s := by
  rw [eraseAll]
  induction s with
  | nil => rfl
  | cons c s ih =>
    have hprefix : word.isPrefixOf (c :: s) = false := by
      rw [← Bool.not_eq_true, List.isPrefixOf_iff_prefix]
      exact fun hp => h hp.isInfix
    rw [eraseFrom, hprefix, if_neg Bool.false_ne_true,
      ih fun hi => h (hi.trans (List.suffix_cons c s).isInfix)]

theorem eraseFrom_sublist (word s : List Char) (skip : Nat) :
    List.Sublist (eraseFrom word skip s) s := by
  induction s generalizing skip with
  | nil => exact List.Sublist.refl []
  | cons d s ih =>
    cases skip with
    | succ skip => exact (ih skip).cons d
    | zero =>
      rw [eraseFrom]
      split
      · exact (ih _).cons d
      · exact (ih 0).cons_cons d

/-- A reply without fence marks. -/
def unfence (s : List Char) : List Char :=
  eraseAll ['`', '`', '`'] (eraseAll ['`', '`', '`', 'j', 's', 'o', 'n'] s)

theorem unfence_append_cons (hc : c ∉ ['`', '`', '`', 'j', 's', 'o', 'n']) :
    unfence (p ++ c :: x) = unfence p ++ c :: unfence x := by
  have hsub : ['`', '`', '`'] ⊆ ['`', '`', '`', 'j', 's', 'o', 'n'] := by simp
  rw [unfence, eraseAll_append_cons (List.cons_ne_nil _ _) hc,
    eraseAll_append_cons (List.cons_ne_nil _ _) fun hm => hc (hsub hm), unfence, unfence]

theorem unfence_of_not_infix (h : ¬ ['`', '`', '`'] <:+: s) : unfence s = s := by
  have hopen : ['`', '`', '`'] <+: ['`', '`', '`', 'j', 's', 'o', 'n'] := ⟨['j', 's', 'o', 'n'], rfl⟩
  rw [unfence, eraseAll_of_not_infix fun hi => h (hopen.isInfix.trans hi), eraseAll_of_not_infix h]

theorem unfence_sublist (s : List Char) : List.Sublist (unfence s) s :=
  (eraseFrom_sublist _ _ 0).trans (eraseFrom_sublist _ s 0)

/-- What is left of a reply that has an object in it: what is left of the object, and on either side what
is left of the words there. -/
theorem stripFences_surrounded (p x s : List Char) :
    stripFences (p ++ '\x7b' :: (x ++ '\x7d' :: s)) =
      (unfence p).dropWhile Text.isBlank ++
        '\x7b' :: (unfence x ++ '\x7d' :: Text.dropEndWhile Text.isBlank (unfence s)) := by
  have hopen : Text.isBlank '\x7b' = false := by decide
  have hclose : Text.isBlank '\x7d' = false := by decide
  have hstart : ∀ q r : List Char, (q ++ '\x7b' :: r).dropWhile Text.isBlank =
      q.dropWhile Text.isBlank ++ '\x7b' :: r := by
    intro q r
    rw [List.dropWhile_append]
    split
    case isTrue hnil =>
      rw [List.isEmpty_iff.mp hnil, List.dropWhile_cons_of_neg (Bool.not_eq_true _ ▸ hopen),
        List.nil_append]
    case isFalse => rfl
  have hend : ∀ q r : List Char, Text.dropEndWhile Text.isBlank (q ++ '\x7d' :: r) =
      q ++ '\x7d' :: Text.dropEndWhile Text.isBlank r := by
    intro q r
    rw [Text.dropEndWhile_append_of_mem List.mem_cons_self hclose, Text.dropEndWhile_cons hclose]
  have herase : stripFences (p ++ '\x7b' :: (x ++ '\x7d' :: s)) =
      Text.trimChars (unfence (p ++ '\x7b' :: (x ++ '\x7d' :: s))) := rfl
  rw [herase, unfence_append_cons (by decide), unfence_append_cons (by decide), Text.trimChars, hstart,
    ← List.cons_append, ← List.append_assoc, hend, List.append_assoc, List.cons_append]

end Reply

/-! ## Verdicts -/

namespace Record

variable {names : List String} {members : List (Option String × Json)}

/-- The field of an array with a given name stands where the name stands. -/
theorem get?_zip (hnodup : names.Nodup) {items : List Json} {k : Nat} {name : String} {listed : Bool}
    (hk : names[k]? = some name) : get? ⟨listed, names.zip items⟩ name = items[k]? := by
  induction names generalizing items k with
  | nil => exact absurd hk (by simp)
  | cons n names ih =>
    obtain ⟨hn, hrest⟩ := List.nodup_cons.mp hnodup
    cases items with
    | nil => rfl
    | cons v items =>
      rw [List.zip_cons_cons, get?_cons]
      cases k with
      | zero => rw [if_pos (Option.some.inj hk), List.getElem?_cons_zero]
      | succ k =>
        have hne : n ≠ name := fun heq => hn (heq ▸ List.mem_of_getElem? hk)
        rw [if_neg hne, List.getElem?_cons_succ, ih hrest hk]

/-- The fields of an object are members of it. -/
theorem mem_of_pick? {fields : List (String × Json)} (h : pick? names members = some fields)
    {k : String} {v : Json} (hk : (k, v) ∈ fields) : (some k, v) ∈ members := by
  induction members generalizing fields with
  | nil =>
    obtain rfl := Option.some.inj h
    exact absurd hk List.not_mem_nil
  | cons m members ih =>
    obtain ⟨name, u⟩ := m
    cases name with
    | none => exact absurd h (by simp [pick?])
    | some name =>
      rw [pick?] at h
      split at h
      case h_1 => exact absurd h (by simp)
      case h_2 rest hrest =>
        split_ifs at h
        · obtain rfl := Option.some.inj h
          exact List.mem_cons_of_mem _ (ih hrest hk)
        · obtain rfl := Option.some.inj h
          rcases List.mem_cons.mp hk with heq | hk
          · obtain ⟨rfl, rfl⟩ := Prod.mk.inj heq
            exact List.mem_cons_self
          · exact List.mem_cons_of_mem _ (ih hrest hk)

end Record

namespace Reply

theorem openBrace_notMem_of_bool? {v : Json} {b : Bool} (h : v.bool? = some b) :
    .openBrace ∉ v.toTokens := by
  cases v with
  | bool => simp [Json.toTokens]
  | _ => exact absurd h (by simp [Json.bool?])

theorem openBrace_notMem_of_orNull {v : Json} {o : Option String}
    (h : Record.orNull Json.string? v = some o) : .openBrace ∉ v.toTokens := by
  cases v with
  | null => simp [Json.toTokens]
  | str => simp [Json.toTokens]
  | _ => exact absurd h (by simp [Record.orNull, Json.string?])

/-- The values of a verdict that is written as an array are plain. -/
theorem openBrace_notMem_of_verdict? {items : List Json} {v : Verdict}
    (h : verdict? (.arr items) = some v) : .openBrace ∉ (Json.arr items).toTokens := by
  have hitems : ∀ u ∈ items, .openBrace ∉ u.toTokens := by
    simp only [verdict?, Option.bind_eq_bind, Option.bind_eq_some_iff, Record.ofJson?,
      Option.ite_none_left_eq_some, Option.some.injEq] at h
    obtain ⟨r, ⟨hlength, rfl⟩, b, hb, severity, hseverity, reasoning, hreasoning, fix, hfix, -⟩ := h
    have hshort : items.length ≤ 4 := by
      simpa [Verdict.fieldNames] using hlength
    have hnodup : Verdict.fieldNames.Nodup := by decide
    rw [Record.required, Record.get?_zip hnodup (k := 0) rfl] at hb
    rw [Record.defaulted, Record.get?_zip hnodup (k := 1) rfl] at hseverity
    rw [Record.defaulted, Record.get?_zip hnodup (k := 2) rfl] at hreasoning
    rw [Record.defaulted, Record.get?_zip hnodup (k := 3) rfl] at hfix
    intro u hu
    obtain ⟨k, hk⟩ := List.mem_iff_getElem?.mp hu
    have hlt : k < 4 := Nat.lt_of_lt_of_le (List.getElem?_eq_some_iff.mp hk).1 hshort
    obtain rfl | rfl | rfl | rfl : k = 0 ∨ k = 1 ∨ k = 2 ∨ k = 3 := by omega
    · rw [hk] at hb
      exact openBrace_notMem_of_bool? hb
    · rw [hk] at hseverity
      exact openBrace_notMem_of_orNull hseverity
    · rw [hk] at hreasoning
      exact openBrace_notMem_of_orNull hreasoning
    · rw [hk] at hfix
      exact openBrace_notMem_of_orNull hfix
  have hall := Json.openBrace_notMem_itemTokens hitems
  simpa [Json.toTokens] using hall

/-- A verdict is an object that names its first field, or an array. -/
theorem verdict?_cases {w : Json} {v : Verdict} (h : verdict? w = some v) :
    (∃ members u, w = .obj members ∧ (some "is_vulnerable", u) ∈ members) ∨
      ∃ items, w = .arr items := by
  cases w with
  | arr items => exact Or.inr ⟨items, rfl⟩
  | obj members =>
    simp only [verdict?, Option.bind_eq_bind, Option.bind_eq_some_iff, Record.ofJson?,
      Option.map_eq_some_iff] at h
    obtain ⟨r, ⟨fields, hfields, rfl⟩, b, hb, -⟩ := h
    obtain ⟨u, hu, -⟩ := Option.bind_eq_some_iff.mp hb
    obtain ⟨⟨k, u'⟩, hfind, rfl⟩ := Option.map_eq_some_iff.mp hu
    obtain rfl : k = "is_vulnerable" := by simpa using List.find?_some hfind
    exact Or.inl ⟨members, u', rfl, Record.mem_of_pick? hfields (List.mem_of_find?_eq_some hfind)⟩
  | _ => exact absurd h (by simp [verdict?, Record.ofJson?])

/-- The name of the first field cannot be read as tokens. -/
theorem not_lexes_isVulnerable : ¬ Lexer.Lexes "is_vulnerable".toList := by
  rintro ⟨out, y, hy⟩
  have hnone : Lexer.run ⟨.idle, out⟩ "is_vulnerable".toList = none := rfl
  rw [hnone] at hy
  exact absurd hy (by simp)

/-- A verdict that opens with a brace is an object, and the name of its first field is a token of it. -/
theorem exists_obj_of_verdictOfText? {s : List Char} {v : Verdict}
    (h : verdictOfText? ('\x7b' :: s) = some v) :
    ∃ members, Json.parse? (String.ofList ('\x7b' :: s)) = some (.obj members) ∧
      .str (some "is_vulnerable") ∈ (Json.obj members).toTokens := by
  obtain ⟨w, hw, hv⟩ := Option.bind_eq_some_iff.mp h
  rcases verdict?_cases hv with ⟨members, u, rfl, hmem⟩ | ⟨items, rfl⟩
  · refine ⟨members, hw, ?_⟩
    rw [Json.toTokens]
    exact List.mem_cons_of_mem _ (List.mem_append_left _ (Json.str_mem_memberTokens hmem))
  · -- The first token would be a bracket.
    have htokens := Json.tokens?_of_parse? hw
    rw [String.toList_ofList] at htokens
    obtain ⟨x, y, hx, hsettle, hout⟩ := Json.tokens?_eq_some htokens
    rw [Lexer.run_openBrace] at hx
    obtain ⟨new, hnew⟩ := (Lexer.suffix_run hx).trans (Lexer.suffix_settle hsettle)
    rw [← hnew, Json.toTokens, List.reverse_append] at hout
    exact absurd (List.cons.inj hout).1 (by simp)

/-- A reply in which something else than a brace stands before the object is no verdict itself. -/
theorem verdictOfText?_enclosed {p s r : List Char} {c : Char} {v : Verdict}
    (hc : Lexer.isGap c = false) (hp : c ≠ '\x7b') (h : verdictOfText? ('\x7b' :: s) = some v) :
    verdictOfText? (c :: p ++ ('\x7b' :: s ++ r)) = none := by
  rw [Option.eq_none_iff_forall_ne_some]
  intro u hu
  obtain ⟨w, hw, hverdict⟩ := Option.bind_eq_some_iff.mp hu
  have htokens := Json.tokens?_of_parse? hw
  rw [String.toList_ofList] at htokens
  rcases verdict?_cases hverdict with ⟨members, u, rfl, -⟩ | ⟨items, rfl⟩
  · rw [Json.toTokens, List.cons_append] at htokens
    exact Lexer.head?_tokens?_ne hc hp htokens rfl
  · have hbraces := openBrace_notMem_of_verdict? hverdict
    obtain ⟨x, y, hx, hsettle, hout⟩ := Json.tokens?_eq_some htokens
    rw [Lexer.run_append] at hx
    obtain ⟨x₀, -, hx₁⟩ := Option.bind_eq_some_iff.mp hx
    rw [Lexer.run_append] at hx₁
    obtain ⟨x₁, hobject, hrest⟩ := Option.bind_eq_some_iff.mp hx₁
    have hbrace : .openBrace ∉ x₁.out := by
      intro hm
      have hmem := ((Lexer.suffix_run hrest).trans (Lexer.suffix_settle hsettle)).subset hm
      exact hbraces (hout ▸ List.mem_reverse.mpr hmem)
    obtain ⟨members, hparse, hname⟩ := exists_obj_of_verdictOfText? h
    have hinner := Json.tokens?_of_parse? hparse
    rw [String.toList_ofList] at hinner
    exact not_lexes_isVulnerable (Lexer.lexes_of_enclosed hinner hobject hbrace hname)

/-- The object that is found in a verdict that opens with a brace is the whole verdict. -/
theorem extractObject?_of_verdictOfText? {s : List Char} {c : Char} {v : Verdict}
    (hc : Lexer.isGap c = false) (h : verdictOfText? ('\x7b' :: (s ++ [c])) = some v) :
    extractObject? ('\x7b' :: (s ++ [c])) = some ('\x7b' :: (s ++ [c])) := by
  obtain ⟨members, hparse, -⟩ := exists_obj_of_verdictOfText? h
  have htokens := Json.tokens?_of_parse? hparse
  rw [String.toList_ofList, Json.toTokens, ← List.cons_append, ← List.cons_append] at htokens
  obtain rfl := Lexer.eq_closeBrace_of_tokens? hc htokens
  exact extractObject?_of_parse? hparse

/-- What stands in front of the first brace, and what stands behind the object, is passed over. -/
theorem extractObject?_surrounded {p s t o : List Char} (hp : '\x7b' ∉ p)
    (h : extractObject? ('\x7b' :: s) = some o) : extractObject? (p ++ '\x7b' :: (s ++ t)) = some o := by
  have hskip : ∀ c ∈ p, (c != '\x7b') = true := fun c hc => bne_iff_ne.mpr fun he => hp (he ▸ hc)
  rw [extractObject?, List.dropWhile_append_of_pos hskip]
  exact balanced?_append (s := '\x7b' :: s) h

/-- An object with a verdict opens with the first brace and stops somewhere behind it. -/
theorem exists_of_extractObject? {s o : List Char} {v : Verdict}
    (h : extractObject? ('\x7b' :: s) = some o) (hv : verdictOfText? o = some v) :
    ∃ o' r, o = '\x7b' :: o' ∧ s = o' ++ r := by
  have hscan : balanced? ⟨0, false, false⟩ ('\x7b' :: s) = some o := h
  obtain ⟨r, hr⟩ := prefix_of_balanced? hscan
  cases o with
  | nil =>
    have hnone : verdictOfText? [] = none := rfl
    exact absurd (hnone.symm.trans hv) (by simp)
  | cons c o =>
    obtain ⟨rfl, hs⟩ := List.cons.inj hr
    exact ⟨o, r, rfl, hs.symm⟩

/-- If a trimmed reply is a verdict, it is the one of the object in it. -/
theorem eq_of_verdictOfText? {p x s o : List Char} {u v : Verdict} (hp : '\x7b' ∉ p)
    (hfirst : ∀ c r, p = c :: r → Lexer.isGap c = false)
    (hlast : ∀ c r, s = r ++ [c] → Lexer.isGap c = false)
    (ho : extractObject? ('\x7b' :: (x ++ ['\x7d'])) = some o) (hv : verdictOfText? o = some v)
    (hu : verdictOfText? (p ++ '\x7b' :: (x ++ '\x7d' :: s)) = some u) : u = v := by
  cases p with
  | nil =>
    -- The scan finds the object and the whole reply.
    obtain ⟨t, c, hc, ht⟩ : ∃ t c, Lexer.isGap c = false ∧ x ++ '\x7d' :: s = t ++ [c] := by
      rcases List.eq_nil_or_concat s with rfl | ⟨r, c, rfl⟩
      · exact ⟨x, '\x7d', by decide, rfl⟩
      · refine ⟨x ++ '\x7d' :: r, c, hlast c r (List.concat_eq_append ..), ?_⟩
        simp only [List.concat_eq_append, List.append_assoc, List.cons_append]
    have hfound := extractObject?_surrounded (p := []) (t := s) hp ho
    rw [List.append_assoc, List.singleton_append, List.nil_append, ht] at hfound
    rw [List.nil_append, ht] at hu
    have hall := extractObject?_of_verdictOfText? hc hu
    rw [Option.some.inj (hall.symm.trans hfound), hv] at hu
    exact (Option.some.inj hu).symm
  | cons c p =>
    obtain ⟨o, r, rfl, hr⟩ := exists_of_extractObject? ho hv
    have hsplit : x ++ '\x7d' :: s = o ++ (r ++ s) := by
      rw [← List.append_assoc, ← hr, List.append_assoc, List.singleton_append]
    have hnone : verdictOfText? (c :: p ++ '\x7b' :: (o ++ (r ++ s))) = none :=
      verdictOfText?_enclosed (hfirst c p rfl) (List.ne_of_not_mem_cons hp).symm hv
    rw [← hsplit, hu] at hnone
    exact absurd hnone (by simp)

end Reply

/-! ## Replies -/

namespace Verdict

open Reply (extractObject? stripFences verdictOfText?)

theorem ofReply_eq_ok_iff {text : String} {v : Verdict} :
    ofReply text = .ok v ↔ verdictOfText? (stripFences text.toList) = some v ∨
      verdictOfText? (stripFences text.toList) = none ∧
        ∃ o, extractObject? (stripFences text.toList) = some o ∧ verdictOfText? o = some v := by
  simp only [ofReply]
  split
  case h_1 u hu => simp [hu]
  case h_2 hnone =>
    split
    case h_1 hobject => simp [hnone, hobject]
    case h_2 o ho =>
      split
      case h_1 u hu => simp [hnone, ho, hu]
      case h_2 hbad => simp [hnone, ho, hbad]

theorem isGap_of_isBlank {c : Char} (h : Text.isBlank c = false) : Lexer.isGap c = false := by
  rw [← Bool.not_eq_true]
  intro hc
  have hcases : c = ' ' ∨ c = '\t' ∨ c = '\n' ∨ c = '\r' := by
    simpa only [Lexer.isGap, Bool.or_eq_true, beq_iff_eq, or_assoc] using hc
  rcases hcases with rfl | rfl | rfl | rfl <;> exact absurd h (by decide)

theorem isGap_of_dropWhile {c : Char} {s r : List Char}
    (h : s.dropWhile Text.isBlank = c :: r) : Lexer.isGap c = false := by
  have hfirst := List.head?_dropWhile_not Text.isBlank s
  rw [h] at hfirst
  exact isGap_of_isBlank hfirst

theorem isGap_of_dropEndWhile {c : Char} {s r : List Char}
    (h : Text.dropEndWhile Text.isBlank s = r ++ [c]) : Lexer.isGap c = false := by
  rw [Text.dropEndWhile, List.reverse_eq_iff, List.reverse_append] at h
  exact isGap_of_dropWhile h

/-- **Words and fences around the object of a reply do not matter.**  Let an object without fence marks
be a reply with a verdict.  Then every reply that has it behind words without an opening brace has the
same verdict, whatever follows. -/
theorem ofReply_surrounded {p j s : String} {v : Verdict} (hopen : j.toList.head? = some '\x7b')
    (hclose : j.toList.getLast? = some '\x7d') (hfence : ¬ "```".toList <:+: j.toList)
    (hj : ofReply j = .ok v) (hp : '\x7b' ∉ p.toList) : ofReply (p ++ j ++ s) = .ok v := by
  obtain ⟨x, hx⟩ : ∃ x, j.toList = '\x7b' :: (x ++ ['\x7d']) := by
    obtain ⟨r, hr⟩ := List.head?_eq_some_iff.mp hopen
    obtain ⟨q, hq⟩ := List.getLast?_eq_some_iff.mp hclose
    cases q with
    | nil => exact absurd (List.cons.inj (hr.symm.trans hq)).1 (by decide)
    | cons c q =>
      obtain ⟨rfl, -⟩ := List.cons.inj (hr.symm.trans hq)
      exact ⟨q, hq⟩
  have hfree : ¬ ['`', '`', '`'] <:+: x := by
    intro hi
    refine hfence (hi.trans ?_)
    rw [hx]
    exact (List.prefix_append x _).isInfix.trans (List.suffix_cons _ _).isInfix
  have hself : stripFences j.toList = '\x7b' :: (x ++ ['\x7d']) := by
    have hstrip := Reply.stripFences_surrounded [] x []
    rw [Reply.unfence_of_not_infix hfree] at hstrip
    rw [hx]
    exact hstrip
  obtain ⟨o, ho, hv⟩ : ∃ o, extractObject? ('\x7b' :: (x ++ ['\x7d'])) = some o ∧
      verdictOfText? o = some v := by
    rcases ofReply_eq_ok_iff.mp hj with hdirect | ⟨-, o, ho, hv⟩
    · rw [hself] at hdirect
      exact ⟨_, Reply.extractObject?_of_verdictOfText? (by decide) hdirect, hdirect⟩
    · exact ⟨o, hself ▸ ho, hv⟩
  have hwhole : (p ++ j ++ s).toList = p.toList ++ '\x7b' :: (x ++ '\x7d' :: s.toList) := by
    rw [String.toList_append, String.toList_append, hx]
    simp only [List.append_assoc, List.cons_append, List.nil_append]
  have hfront : '\x7b' ∉ (Reply.unfence p.toList).dropWhile Text.isBlank :=
    fun hm => hp ((Reply.unfence_sublist _).subset ((List.dropWhile_suffix _).subset hm))
  rw [ofReply_eq_ok_iff, hwhole, Reply.stripFences_surrounded, Reply.unfence_of_not_infix hfree]
  cases hall : verdictOfText? ((Reply.unfence p.toList).dropWhile Text.isBlank ++
      '\x7b' :: (x ++ '\x7d' :: Text.dropEndWhile Text.isBlank (Reply.unfence s.toList))) with
  | none =>
    have hfound := Reply.extractObject?_surrounded
      (t := Text.dropEndWhile Text.isBlank (Reply.unfence s.toList)) hfront ho
    rw [List.append_assoc, List.singleton_append] at hfound
    exact Or.inr ⟨rfl, o, hfound, hv⟩
  | some u =>
    rw [Reply.eq_of_verdictOfText? hfront (fun c r h => isGap_of_dropWhile h)
      (fun c r h => isGap_of_dropEndWhile h) ho hv hall]
    exact Or.inl rfl

/-- An object with a brace and an escaped quote in one of its strings. -/
def oddReply : String :=
  "\x7b\"is_vulnerable\": true, \"reasoning\": \"a \x7d and a \\\" \"\x7d"

/-- The object stands behind a fence and an open string, and another object follows it. -/
theorem ofReply_surrounded_odd :
    ofReply oddReply = .ok ⟨true, .medium, "a \x7d and a \" ", ""⟩ ∧
      ofReply ("Sure: [true, \" ```json\n" ++ oddReply ++ "\n``` not \x7b\"is_vulnerable\": false\x7d") =
        .ok ⟨true, .medium, "a \x7d and a \" ", ""⟩ := by
  have hself : ofReply oddReply = .ok ⟨true, .medium, "a \x7d and a \" ", ""⟩ :=
    ofReply_eq_ok_iff.mpr (Or.inl (by decide +kernel))
  exact ⟨hself, ofReply_surrounded (by decide +kernel) (by decide +kernel) (by decide +kernel) hself
    (by decide +kernel)⟩

end Verdict

end SinkAudit

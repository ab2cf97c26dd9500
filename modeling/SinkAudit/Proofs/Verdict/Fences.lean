import SinkAudit.Proofs.Store.Log
import SinkAudit.Proofs.Verdict.Agreement

/-!
# Fence marks in the texts of a verdict

A reply that is nothing but a verdict, written as the log writes it, can have fence marks in its texts,
as in a fix that quotes a block of code.  Fence marks are taken out of a reply before it is read, and a
string is no shelter.  So the texts of such a reply lose their marks, and the verdict is read back as it
was only if there were none.

No mark reaches across a quote, so each string loses its own marks.  Inside a string the characters of a
mark stand for themselves, and every escape starts with a backslash and has no backtick in it; so taking
marks out of the written string is taking them out of the text (`unfence_flatMap_escapeChar`).

* `Json.IsSpelling`: how a character is written in a string.
* `Reply.IsFence`: the words whose removal commutes with escaping.
* `Reply.unfence_eq_self_iff`: nothing is taken out of a text without marks, and only of such a text.
* `Verdict.unfenced`: a verdict without the marks in its texts.
* `Verdict.ofReply_compact`: what is read from a written verdict.
-/

namespace SinkAudit

namespace Json

/-- How a character is written in a string: as itself, or with a backslash and without a backtick. -/
def IsSpelling (c : Char) (l : List Char) : Prop :=
  l = [c] ∨ ∃ r, l = '\\' :: r ∧ '`' ∉ '\\' :: r

theorem isSpelling_escapeChar (c : Char) : IsSpelling c (escapeChar c) := by
  have hdigit : ∀ {n}, n < 16 → '`' ≠ Digest.hexDigit n := by
    intro n hn
    have hall : ∀ k : Fin 16, '`' ≠ Digest.hexDigit k.val := by decide
    exact hall ⟨n, hn⟩
  have hslash : ∀ {r}, '`' ∉ '\\' :: r → IsSpelling c ('\\' :: r) :=
    fun hr => Or.inr ⟨_, rfl, hr⟩
  have hite : ∀ {p : Prop} [Decidable p] {a b : List Char}, (p → IsSpelling c a) →
      IsSpelling c b → IsSpelling c (if p then a else b) := by
    intro p _ a b ha hb
    split
    case isTrue hp => exact ha hp
    case isFalse => exact hb
  unfold escapeChar
  -- Seven characters have an escape of their own, and the other control characters are numbered.
  iterate 7 refine hite (fun _ => hslash (by decide)) ?_
  refine hite (fun hc => hslash ?_) (Or.inl rfl)
  have hhigh := hdigit (n := c.toNat / 16) (by omega)
  have hlow := hdigit (n := c.toNat % 16) (by omega)
  simp [hhigh, hlow]

end Json

/-! ## Taking words out -/

namespace Reply

open Json (escapeChar)

variable {word s x : List Char} {c : Char}

/-- A word that opens with a backtick and whose characters stand for themselves in a string. -/
structure IsFence (word : List Char) : Prop where
  head : word.head? = some '`'
  plain : ∀ c ∈ word, escapeChar c = [c]

theorem isFence_json : IsFence ['`', '`', '`', 'j', 's', 'o', 'n'] := by
  have hall : (['`', '`', '`', 'j', 's', 'o', 'n'].all fun c => escapeChar c == [c]) = true := by
    decide
  exact ⟨rfl, fun c hc => beq_iff_eq.mp (List.all_eq_true.mp hall c hc)⟩

theorem isFence_bare : IsFence ['`', '`', '`'] :=
  ⟨rfl, fun c hc => isFence_json.plain c (List.mem_append_left ['j', 's', 'o', 'n'] hc)⟩

/-- A word of plain characters starts a written string exactly if it starts the text. -/
theorem isPrefixOf_flatMap_escapeChar (h : ∀ c ∈ word, escapeChar c = [c]) (s : List Char) :
    word.isPrefixOf (s.flatMap escapeChar) = word.isPrefixOf s := by
  induction word generalizing s with
  | nil => simp
  | cons e word ih =>
    obtain ⟨he, hword⟩ := List.forall_mem_cons.mp h
    cases s with
    | nil => rfl
    | cons d s =>
      rw [List.flatMap_cons]
      rcases Json.isSpelling_escapeChar d with hd | ⟨r, hd, -⟩
      · rw [hd, List.singleton_append, List.isPrefixOf, List.isPrefixOf, ih hword]
      · -- An escape starts with a backslash, which is not plain, and neither is what it stands for.
        have hslash : e ≠ '\\' := by
          rintro rfl
          exact absurd he (by decide)
        have hne : e ≠ d := by
          rintro rfl
          exact hslash (List.cons.inj (he.symm.trans hd)).1
        rw [hd, List.cons_append, List.isPrefixOf, List.isPrefixOf, beq_false_of_ne hslash,
          beq_false_of_ne hne, Bool.false_and, Bool.false_and]

/-- Nothing is taken out of characters that no word starts with. -/
theorem eraseFrom_append_of_notMem (hhead : word.head? = some c) (hc : c ∉ s) :
    eraseFrom word 0 (s ++ x) = s ++ eraseFrom word 0 x := by
  obtain ⟨w, rfl⟩ := List.head?_eq_some_iff.mp hhead
  induction s with
  | nil => rfl
  | cons d s ih =>
    have hne : (c == d) = false := beq_false_of_ne (List.ne_of_not_mem_cons hc)
    rw [List.cons_append, eraseFrom, List.isPrefixOf, hne, Bool.false_and,
      if_neg Bool.false_ne_true, ih (List.not_mem_of_not_mem_cons hc), List.cons_append]

/-- Taking a mark out of a written string is taking it out of the text.  The characters that are still
to be skipped belong to a mark, so they are plain. -/
theorem eraseFrom_flatMap_escapeChar (h : IsFence word) (s : List Char) (skip : Nat)
    (hskip : ∀ c ∈ s.take skip, escapeChar c = [c]) :
    eraseFrom word skip (s.flatMap escapeChar) = (eraseFrom word skip s).flatMap escapeChar := by
  induction s generalizing skip with
  | nil => rfl
  | cons c s ih =>
    cases skip with
    | succ skip =>
      obtain ⟨hc, hrest⟩ := List.forall_mem_cons.mp hskip
      rw [List.flatMap_cons, hc, List.singleton_append, eraseFrom, eraseFrom, ih skip hrest]
    | zero =>
      have hstart := isPrefixOf_flatMap_escapeChar h.plain (c :: s)
      rw [List.flatMap_cons] at hstart ⊢
      have hnone : ∀ d ∈ s.take 0, escapeChar d = [d] := by simp
      by_cases hword : word.isPrefixOf (c :: s) = true
      · obtain ⟨w, rfl⟩ := List.head?_eq_some_iff.mp h.head
        obtain ⟨rfl, hw⟩ := List.cons_prefix_cons.mp (List.isPrefixOf_iff_prefix.mp hword)
        obtain ⟨hc, hplain⟩ := List.forall_mem_cons.mp h.plain
        rw [hc, List.singleton_append] at hstart ⊢
        rw [eraseFrom, hstart, if_pos hword, eraseFrom, if_pos hword]
        refine ih _ ?_
        rw [List.length_cons, Nat.add_sub_cancel, ← List.prefix_iff_eq_take.mp hw]
        exact hplain
      · rw [eraseFrom, if_neg hword, List.flatMap_cons, ← ih 0 hnone]
        rcases Json.isSpelling_escapeChar c with hc | ⟨r, hc, hr⟩
        · rw [hc, List.singleton_append] at hstart ⊢
          rw [eraseFrom, hstart, if_neg hword, List.singleton_append]
        · rw [hc]
          exact eraseFrom_append_of_notMem h.head hr

/-- Taking fence marks out of a written string is taking them out of the text. -/
theorem unfence_flatMap_escapeChar (s : List Char) :
    unfence (s.flatMap escapeChar) = (unfence s).flatMap escapeChar := by
  have hnone : ∀ t : List Char, ∀ c ∈ t.take 0, escapeChar c = [c] := by simp
  rw [unfence, unfence, eraseAll, eraseAll, eraseFrom_flatMap_escapeChar isFence_json s 0 (hnone s)]
  exact eraseFrom_flatMap_escapeChar isFence_bare _ 0 (hnone _)

/-- A word that occurs in a text is taken out of it. -/
theorem not_infix_of_eraseAll_eq (hne : word ≠ []) (h : eraseAll word s = s) : ¬ word <:+: s := by
  rw [eraseAll] at h
  induction s with
  | nil => rwa [List.infix_nil]
  | cons c s ih =>
    rw [List.infix_cons_iff, ← List.isPrefixOf_iff_prefix]
    rw [eraseFrom] at h
    by_cases hword : word.isPrefixOf (c :: s) = true
    · rw [if_pos hword] at h
      have hshort := (eraseFrom_sublist word s (word.length - 1)).length_le
      rw [h, List.length_cons] at hshort
      omega
    · rw [if_neg hword] at h
      rintro (hfirst | hlater)
      · exact hword hfirst
      · exact ih (List.cons.inj h).2 hlater

/-- Nothing is taken out of a text without fence marks, and only of such a text. -/
theorem unfence_eq_self_iff : unfence s = s ↔ ¬ ['`', '`', '`'] <:+: s := by
  refine ⟨fun h => ?_, unfence_of_not_infix⟩
  have hinner : eraseAll ['`', '`', '`', 'j', 's', 'o', 'n'] s = s := by
    refine (eraseFrom_sublist _ s 0).antisymm ?_
    have houter := eraseFrom_sublist ['`', '`', '`']
      (eraseAll ['`', '`', '`', 'j', 's', 'o', 'n'] s) 0
    rw [unfence, eraseAll] at h
    rwa [h] at houter
  rw [unfence, hinner] at h
  exact not_infix_of_eraseAll_eq (List.cons_ne_nil _ _) h

end Reply

/-! ## Written verdicts -/

theorem Json.toList_quote (s : String) :
    (quote s).toList = '"' :: (s.toList.flatMap escapeChar ++ ['"']) := by
  simp only [quote, String.toList_append, String.toList_ofList, List.append_assoc]
  rfl

theorem Json.notMem_quote {s : String} (h : '`' ∉ s.toList) : '`' ∉ (quote s).toList := by
  have hinside : '`' ∉ s.toList.flatMap escapeChar := by
    intro hm
    obtain ⟨c, hc, hspelled⟩ := List.mem_flatMap.mp hm
    rcases isSpelling_escapeChar c with hplain | ⟨r, hr, hnone⟩
    · rw [hplain, List.mem_singleton] at hspelled
      exact h (hspelled ▸ hc)
    · exact hnone (hr ▸ hspelled)
  simpa [toList_quote] using hinside

/-- A string in a text loses its own marks. -/
theorem Reply.unfence_append_quote (p : List Char) (s : String) (x : List Char) :
    unfence (p ++ ((Json.quote s).toList ++ x)) =
      unfence p ++ ((Json.quote (String.ofList (unfence s.toList))).toList ++ unfence x) := by
  have hquote : '"' ∉ ['`', '`', '`', 'j', 's', 'o', 'n'] := by decide
  rw [Json.toList_quote, Json.toList_quote, String.toList_ofList, ← unfence_flatMap_escapeChar,
    List.cons_append, List.append_assoc, List.singleton_append, unfence_append_cons hquote,
    unfence_append_cons hquote, List.cons_append, List.append_assoc, List.singleton_append]

namespace Verdict

open Reply (stripFences unfence)

/-- The verdict without the fence marks in its texts. -/
def unfenced (v : Verdict) : Verdict :=
  { v with
    reasoning := String.ofList (unfence v.reasoning.toList)
    fix := String.ofList (unfence v.fix.toList) }

/-- What a written verdict has in front of its first text, after the brace. -/
def opening (isVulnerable : Bool) (severity : Severity) : String :=
  Json.quote "is_vulnerable" ++ ":" ++ (Json.bool isVulnerable).compact ++ "," ++
    Json.quote "severity" ++ ":" ++ Json.quote severity.name ++ "," ++ Json.quote "reasoning" ++ ":"

/-- What a written verdict has between its two texts. -/
def middle : String :=
  "," ++ Json.quote "fix" ++ ":"

/-- A written verdict between its braces. -/
def inside (v : Verdict) : String :=
  opening v.isVulnerable v.severity ++ (Json.quote v.reasoning ++ (middle ++ Json.quote v.fix))

theorem toList_compact (v : Verdict) :
    v.toJson.compact.toList = '\x7b' :: (v.inside.toList ++ ['\x7d']) := by
  have hwritten : v.toJson.compact = "\x7b" ++ v.inside ++ "\x7d" := by
    simp only [toJson, Severity.toJson, Json.text, Json.object, List.map_cons, List.map_nil,
      Json.compact, Json.compactMembers, Json.quoteText, inside, opening, middle, String.append_assoc]
  rw [hwritten, String.toList_append, String.toList_append]
  rfl

theorem notMem_opening (isVulnerable : Bool) (severity : Severity) :
    '`' ∉ (opening isVulnerable severity).toList := by
  have hbool : '`' ∉ (Json.bool isVulnerable).compact.toList := by
    cases isVulnerable <;> decide
  have hname : '`' ∉ severity.name.toList := by
    cases severity <;> decide
  simp [opening, Json.notMem_quote, hbool, hname]

/-- Of a written verdict only the two texts can have marks. -/
theorem unfence_inside (v : Verdict) : unfence v.inside.toList = v.unfenced.inside.toList := by
  have hmiddle : '`' ∉ middle.toList := by
    simp [middle, Json.notMem_quote]
  have hkept : ∀ {s : List Char}, '`' ∉ s → unfence s = s := by
    intro s hs
    refine Reply.unfence_of_not_infix fun hi => hs (hi.subset ?_)
    exact List.mem_cons_self
  have hsplit : ∀ w : Verdict, w.inside.toList =
      (opening w.isVulnerable w.severity).toList ++ ((Json.quote w.reasoning).toList ++
        (middle.toList ++ ((Json.quote w.fix).toList ++ []))) := by
    intro w
    simp only [inside, String.toList_append, List.append_nil]
  rw [hsplit, hsplit, Reply.unfence_append_quote, Reply.unfence_append_quote,
    hkept (notMem_opening v.isVulnerable v.severity), hkept hmiddle]
  rfl

theorem stripFences_compact (v : Verdict) :
    stripFences v.toJson.compact.toList = v.unfenced.toJson.compact.toList := by
  have hstrip := Reply.stripFences_surrounded [] v.inside.toList []
  rw [unfence_inside] at hstrip
  rw [toList_compact, toList_compact]
  exact hstrip

theorem verdictOfText?_compact (v : Verdict) :
    Reply.verdictOfText? v.toJson.compact.toList = some v := by
  rw [Reply.verdictOfText?, String.ofList_toList, Json.parse?_compact _ rfl, Option.bind_some]
  exact Reply.verdict?_of_ofJson? (ofJson?_toJson v)

/-- A reply that is a written verdict is read without the marks in its texts. -/
theorem ofReply_toJson (v : Verdict) : ofReply v.toJson.compact = .ok v.unfenced := by
  refine ofReply_eq_ok_iff.mpr (Or.inl ?_)
  rw [stripFences_compact, verdictOfText?_compact]

theorem unfenced_eq_self_iff {v : Verdict} :
    v.unfenced = v ↔
      ¬ "```".toList <:+: v.reasoning.toList ∧ ¬ "```".toList <:+: v.fix.toList := by
  obtain ⟨isVulnerable, severity, reasoning, fix⟩ := v
  have hmark : "```".toList = ['`', '`', '`'] := rfl
  have htext : ∀ s : String, String.ofList (unfence s.toList) = s ↔
      ¬ ['`', '`', '`'] <:+: s.toList := by
    intro s
    rw [← Reply.unfence_eq_self_iff, ← String.toList_inj, String.toList_ofList]
  rw [unfenced, Verdict.mk.injEq, hmark, htext, htext]
  simp only [true_and]

/-- **A reply loses the fence marks in its texts.**  From a verdict written as the log writes it, with
nothing around it, a reply gives the verdict without the fence marks in its texts; so it gives the
verdict itself only if there are none. -/
theorem ofReply_compact (v : Verdict) :
    ofReply v.toJson.compact = .ok v.unfenced ∧
      (ofReply v.toJson.compact = .ok v ↔
        ¬ "```".toList <:+: v.reasoning.toList ∧ ¬ "```".toList <:+: v.fix.toList) := by
  refine ⟨ofReply_toJson v, ?_⟩
  rw [ofReply_toJson, Except.ok.injEq]
  exact unfenced_eq_self_iff

/-- A verdict whose fix is a block of code. -/
def blockFix : Verdict := ⟨true, .high, "tainted", "```js\nf(x)\n```"⟩

/-- The log reads the block as it is, and a reply reads it without its fences. -/
theorem blockFix_not_kept :
    decode ofJson? blockFix.toJson.compact = some blockFix ∧
      ofReply blockFix.toJson.compact = .ok ⟨true, .high, "tainted", "js\nf(x)\n"⟩ ∧
      ofReply blockFix.toJson.compact ≠ .ok blockFix := by
  have hlog : decode ofJson? blockFix.toJson.compact = some blockFix := by
    rw [decode, Json.parse?_compact _ rfl, Option.bind_some, ofJson?_toJson]
  have hread : ofReply blockFix.toJson.compact = .ok ⟨true, .high, "tainted", "js\nf(x)\n"⟩ := by
    rw [ofReply_toJson, Except.ok.injEq]
    decide +kernel
  refine ⟨hlog, hread, ?_⟩
  rw [hread, ne_eq, Except.ok.injEq]
  decide

end Verdict

end SinkAudit

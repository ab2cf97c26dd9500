import SinkAudit.Proofs.Verdict.Reply

/-!
# Two readers of a verdict

A verdict is read in two ways.  The reader of the log is strict: a field is left out or it is what it
should be, and a severity has to be a known word.  The reader of replies takes fences and blanks off
the text, lets fields be `null`, and counts an unknown severity as none.  Where the strict reader finds
a verdict, the other one finds the same, unless there are fence marks in the text.

Two things have to be seen.  More characters are blank for a reply than for the lexer, but a text that
can be read has none at its ends that are not blank for both (`Json.tokens?_trimChars`).  And each field
of a reply reads what the strict field reads, with the same default (`Record.exists_defaulted_orNull`).

* `Json.parse?_trimChars`: a text that is a value is the same value when it is trimmed.
* `Reply.verdict?_of_ofJson?`: what is strictly a verdict is the same verdict in a reply.
* `Verdict.readers_agree`: the two readers on texts.
-/

namespace SinkAudit

/-! ## Blanks around a text -/

namespace Lexer

variable {x y z : Lexer} {c : Char} {out : List JsonToken}

theorem isBlank_of_isNumeric (h : isNumeric c = true) : Text.isBlank c = false := by
  by_cases hdigit : c.isDigit = true
  · exact Text.isBlank_of_isDigit hdigit
  · have hcases : c = '-' ∨ c = '+' ∨ c = '.' ∨ c = 'e' ∨ c = 'E' := by
      simpa only [isNumeric, hdigit, Bool.false_or, Bool.or_eq_true, beq_iff_eq, or_assoc] using h
    rcases hcases with rfl | rfl | rfl | rfl | rfl <;> decide

/-- A blank starts nothing, and it is blank for the lexer too. -/
theorem Starts.of_isBlank (h : Starts c out y) (hc : Text.isBlank c = true) :
    isGap c = true ∧ y = ⟨.idle, out⟩ := by
  have hclash : ¬ Text.isBlank c = false := by simp [hc]
  cases h with
  | gap hgap => exact ⟨hgap, rfl⟩
  | mark hmark => cases hmark <;> exact absurd hc (by decide)
  | quote hquote =>
    subst hquote
    exact absurd hc (by decide)
  | digit hdigit => exact absurd (isBlank_of_isNumeric hdigit) hclash
  | letter hletter => exact absurd (Text.isBlank_of_isLower hletter) hclash

/-- A blank that does not end up in a string is blank for the lexer. -/
theorem isGap_of_feed (h : x.feed c = some y) (hy : y.quoted = false)
    (hc : Text.isBlank c = true) : isGap c = true := by
  have hclash : ¬ Text.isBlank c = false := by simp [hc]
  cases step_of_feed h with
  | close hquote =>
    subst hquote
    exact absurd hc (by decide)
  | backslash => exact absurd hy (by simp [quoted])
  | collect => exact absurd hy (by simp [quoted])
  | escaped => exact absurd hy (by simp [quoted])
  | letter hletter => exact absurd (Text.isBlank_of_isLower hletter) hclash
  | digit hdigit => exact absurd (isBlank_of_isNumeric hdigit) hclash
  | next _ hstart => exact (hstart.of_isBlank hc).1

end Lexer

namespace Json

variable {s t : List Char} {ts : List JsonToken}

theorem tokens?_dropWhile_isBlank (h : tokens? s = some ts) :
    tokens? (s.dropWhile Text.isBlank) = some ts := by
  induction s with
  | nil => exact h
  | cons c s ih =>
    by_cases hc : Text.isBlank c = true
    · rw [List.dropWhile_cons_of_pos hc]
      obtain ⟨x, y, hx, hsettle, rfl⟩ := tokens?_eq_some h
      obtain ⟨u, hfeed, hrest⟩ := Lexer.run_cons_eq_some hx
      obtain ⟨-, rfl⟩ := (Lexer.starts_of_start hfeed).of_isBlank hc
      refine ih ?_
      have hrun : Lexer.initial.run s = some x := hrest
      rw [tokens?, hrun, Option.bind_some, hsettle, Option.map_some]
    · rw [List.dropWhile_cons_of_neg hc, h]

theorem tokens?_of_append_blanks (ht : ∀ c ∈ t, Text.isBlank c = true)
    (h : tokens? (s ++ t) = some ts) : tokens? s = some ts := by
  induction t using List.reverseRecOn with
  | nil => rwa [List.append_nil] at h
  | append_singleton t c ih =>
    obtain ⟨hinit, hlast⟩ := List.forall_mem_append.mp ht
    refine ih hinit ?_
    rw [← List.append_assoc] at h
    obtain ⟨x, y, hx, hsettle, -⟩ := tokens?_eq_some h
    obtain ⟨u, -, hfeed⟩ := Lexer.run_concat_eq_some hx
    have hgap := Lexer.isGap_of_feed hfeed (Lexer.quoted_of_settle hsettle)
      (hlast c List.mem_cons_self)
    rwa [Lexer.tokens?_append_gap _ hgap] at h

/-- Trimming changes no token of a text that can be read. -/
theorem tokens?_trimChars (h : tokens? s = some ts) : tokens? (Text.trimChars s) = some ts := by
  obtain ⟨t, hsplit, hblank⟩ :=
    Text.exists_append_dropEndWhile Text.isBlank (s.dropWhile Text.isBlank)
  have hfront := tokens?_dropWhile_isBlank h
  rw [hsplit] at hfront
  exact tokens?_of_append_blanks hblank hfront

/-- A text that is a value is the same value when it is trimmed. -/
theorem parse?_trimChars {text : String} {v : Json} (h : parse? text = some v) :
    parse? (String.ofList (Text.trimChars text.toList)) = some v := by
  have htokens := tokens?_of_parse? h
  have htrimmed := tokens?_trimChars htokens
  rw [parse?, htokens] at h
  rw [parse?, String.toList_ofList, htrimmed]
  exact h

end Json

/-! ## The fields of a verdict -/

/-- A field that is read from a string, if it is given, is read the same when it may be `null` too. -/
theorem Record.exists_defaulted_orNull {α : Type} {r : Record} {name : String}
    {strict : Json → Option α} {read : String → Option α} {d a : α}
    (hstrict : ∀ v, strict v = v.string?.bind read) (h : r.defaulted name strict d = some a) :
    ∃ o, r.defaulted name (orNull Json.string?) none = some o ∧ (o.bind read).getD d = a := by
  rw [defaulted] at h
  rw [defaulted]
  cases hget : r.get? name with
  | none =>
    rw [hget] at h
    exact ⟨none, rfl, Option.some.inj h⟩
  | some v =>
    rw [hget] at h
    obtain ⟨text, htext, hread⟩ := Option.bind_eq_some_iff.mp ((hstrict v).symm.trans h)
    refine ⟨some text, ?_, by rw [Option.bind_some, hread, Option.getD_some]⟩
    cases v with
    | str t =>
      obtain rfl : t = some text := htext
      rfl
    | _ => exact absurd htext (by simp [Json.string?])

/-- What is strictly a verdict is the same verdict in a reply. -/
theorem Reply.verdict?_of_ofJson? {w : Json} {v : Verdict} (h : Verdict.ofJson? w = some v) :
    Reply.verdict? w = some v := by
  simp only [Verdict.ofJson?, Option.bind_eq_bind, Option.bind_eq_some_iff, Option.pure_def,
    Option.some.injEq] at h
  obtain ⟨r, hr, isVulnerable, hvulnerable, severity, hseverity, reasoning, hreasoning, fix, hfix,
    rfl⟩ := h
  have htext : ∀ u : Json, u.string? = u.string?.bind some :=
    fun u => (Option.bind_fun_some u.string?).symm
  obtain ⟨severity', hseverity', rfl⟩ := Record.exists_defaulted_orNull (fun _ => rfl) hseverity
  obtain ⟨reasoning', hreasoning', rfl⟩ := Record.exists_defaulted_orNull htext hreasoning
  obtain ⟨fix', hfix', rfl⟩ := Record.exists_defaulted_orNull htext hfix
  simp only [Reply.verdict?, Option.bind_eq_bind, Option.bind_eq_some_iff, Option.pure_def,
    Option.some.injEq]
  refine ⟨r, hr, isVulnerable, hvulnerable, severity', hseverity', reasoning', hreasoning', fix',
    hfix', ?_⟩
  rw [Option.bind_fun_some, Option.bind_fun_some]

/-! ## Texts -/

namespace Verdict

/-- **The two readers of a verdict agree.**  A text without fence marks that is strictly a verdict is a
reply with that verdict, whatever its layout: an object or an array, with its fields in any order, some
of them left out, others unknown, and the severity in any of its spellings. -/
theorem readers_agree {text : String} {v : Verdict} (hfence : ¬ "```".toList <:+: text.toList)
    (h : decode ofJson? text = some v) : ofReply text = .ok v := by
  obtain ⟨w, hw, hv⟩ := Option.bind_eq_some_iff.mp h
  have hstrip : Reply.stripFences text.toList = Text.trimChars (Reply.unfence text.toList) := rfl
  refine ofReply_eq_ok_iff.mpr (Or.inl ?_)
  rw [hstrip, Reply.unfence_of_not_infix hfence, Reply.verdictOfText?, Json.parse?_trimChars hw,
    Option.bind_some, Reply.verdict?_of_ofJson? hv]

/-- An array with blanks around it, and an object with its fields in another order, one of them unknown.
The backticks of the object are escaped, so its fix has a fence mark though the text has none. -/
theorem readers_agree_odd :
    decode ofJson? "\n [true, \" Crit\"]\t" = some ⟨true, .critical, "", ""⟩ ∧
      ofReply "\n [true, \" Crit\"]\t" = .ok ⟨true, .critical, "", ""⟩ ∧
      ofReply ("\x7b\"fix\": \"\\u0060\\u0060\\u0060js\", \"why\": [\x7b\x7d, 1], " ++
        "\"severity\": \"MODERATE\", \"is_vulnerable\": false\x7d") =
          .ok ⟨false, .medium, "", "```js"⟩ := by
  have harray : decode ofJson? "\n [true, \" Crit\"]\t" = some ⟨true, .critical, "", ""⟩ := by
    decide +kernel
  exact ⟨harray, readers_agree (by decide +kernel) harray,
    readers_agree (by decide +kernel) (by decide +kernel)⟩

end Verdict

end SinkAudit

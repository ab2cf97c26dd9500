import SinkAudit.Proofs.Json.Tokens

/-!
# One character at a time

What the lexer can do with a character: inside a string it collects the character or ends the string,
inside a word or a number it goes on, and everywhere else it starts something new (`Step`).  What a
text says about its first and its last token follows from that.

The same characters can be read by a lexer that is inside a string and by one that is not.  Where the
one enters a string, the other leaves one, and a backslash is no help, for it can stand inside strings
only.  So each string that the one reads is a text that the other reads as tokens, and a name that
cannot be taken apart into tokens stops it (`Opposed`, `lexes_of_enclosed`).

* `Lexer.Starts`, `Lexer.Step`: what a character does, with `step_of_feed`.
* `Lexer.head?_tokens?_ne`, `Lexer.eq_closeBrace_of_tokens?`: the first and the last token.
* `Lexer.Opposed`: two lexers that disagree on what is inside a string.
-/

namespace SinkAudit.Lexer

open JsonMachine (IsBare)

/-- A character that is a token by itself. -/
inductive IsMark : Char → JsonToken → Prop
  | openBrace : IsMark '\x7b' .openBrace
  | closeBrace : IsMark '\x7d' .closeBrace
  | openBracket : IsMark '[' .openBracket
  | closeBracket : IsMark ']' .closeBracket
  | comma : IsMark ',' .comma
  | colon : IsMark ':' .colon

/-- What a character starts behind complete tokens. -/
inductive Starts (c : Char) (out : List JsonToken) : Lexer → Prop
  | gap (h : isGap c = true) : Starts c out ⟨.idle, out⟩
  | mark {t} (h : IsMark c t) : Starts c out ⟨.idle, t :: out⟩
  | quote (h : c = '"') : Starts c out ⟨.string [], out⟩
  | digit (h : isNumeric c = true) : Starts c out ⟨.number [c], out⟩
  | letter (h : c.isLower = true) : Starts c out ⟨.word [c], out⟩

/-- What the lexer does with a character. -/
inductive Step (c : Char) : Lexer → Lexer → Prop
  | close {w out t} (hc : c = '"') (ht : string? w.reverse = some t) :
      Step c ⟨.string w, out⟩ ⟨.idle, t :: out⟩
  | backslash {w out} (hc : c = '\\') : Step c ⟨.string w, out⟩ ⟨.escape (c :: w), out⟩
  | collect {w out} (hquote : c ≠ '"') (hslash : c ≠ '\\') :
      Step c ⟨.string w, out⟩ ⟨.string (c :: w), out⟩
  | escaped {w out} : Step c ⟨.escape w, out⟩ ⟨.string (c :: w), out⟩
  | letter {w out} (hc : c.isLower = true) : Step c ⟨.word w, out⟩ ⟨.word (c :: w), out⟩
  | digit {w out} (hc : isNumeric c = true) : Step c ⟨.number w, out⟩ ⟨.number (c :: w), out⟩
  | next {x u y} (hu : x.settle = some u) (hy : Starts c u.out y) : Step c x y

variable {x y z : Lexer} {c : Char} {out : List JsonToken}

theorem starts_of_start (h : start out c = some y) : Starts c out y := by
  have hsome : ∀ {u : Lexer}, Starts c out u → some u = some y → Starts c out y := by
    rintro u hu ⟨⟩
    exact hu
  have hite : ∀ {p : Bool} {r r' : Option Lexer}, (p = true → r = some y → Starts c out y) →
      (r' = some y → Starts c out y) → (if p then r else r') = some y → Starts c out y := by
    intro p r r' hr hr' h
    split at h
    case isTrue hp => exact hr hp h
    case isFalse => exact hr' h
  have hmark : ∀ {d t}, IsMark d t → (c == d) = true → some ⟨.idle, t :: out⟩ = some y →
      Starts c out y := by
    intro d t hd hc
    obtain rfl := beq_iff_eq.mp hc
    exact hsome (.mark hd)
  refine hite (fun hc => hsome (.gap hc)) ?_ h
  refine hite (hmark .openBrace) ?_
  refine hite (hmark .closeBrace) ?_
  refine hite (hmark .openBracket) ?_
  refine hite (hmark .closeBracket) ?_
  refine hite (hmark .comma) ?_
  refine hite (hmark .colon) ?_
  refine hite (fun hc => hsome (.quote (beq_iff_eq.mp hc))) ?_
  refine hite (fun hc => hsome (.digit ?_)) ?_
  · rw [isNumeric]
    rcases Bool.or_eq_true_iff.mp hc with hminus | hdigit
    · rw [hminus]
      simp only [Bool.or_true, Bool.true_or]
    · rw [hdigit]
      simp only [Bool.true_or]
  · exact hite (fun hc => hsome (.letter hc)) fun hnothing => absurd hnothing (by simp)

theorem step_of_feed (h : x.feed c = some y) : Step c x y := by
  have hnext : (x.settle.bind fun u => start u.out c) = some y → Step c x y := by
    intro hbind
    obtain ⟨u, hu, hy⟩ := Option.bind_eq_some_iff.mp hbind
    exact .next hu (starts_of_start hy)
  obtain ⟨mode, out⟩ := x
  cases mode with
  | idle => exact .next rfl (starts_of_start h)
  | word w =>
    simp only [feed] at h
    split at h
    case isTrue hc =>
      obtain rfl := Option.some.inj h
      exact .letter hc
    case isFalse => exact hnext h
  | number w =>
    simp only [feed] at h
    split at h
    case isTrue hc =>
      obtain rfl := Option.some.inj h
      exact .digit hc
    case isFalse => exact hnext h
  | string w =>
    simp only [feed, beq_iff_eq] at h
    split_ifs at h with hquote hslash
    · obtain ⟨t, ht, rfl⟩ := Option.map_eq_some_iff.mp h
      exact .close hquote ht
    · obtain rfl := Option.some.inj h
      exact .backslash hslash
    · obtain rfl := Option.some.inj h
      exact .collect hquote hslash
  | escape w =>
    obtain rfl := Option.some.inj h
    exact .escaped

theorem Starts.suffix (h : Starts c out y) : out <:+ y.out := by
  cases h with
  | mark => exact List.suffix_cons _ out
  | _ => exact List.suffix_refl out

/-- A text is read if its first character is read, and then the rest. -/
theorem run_cons_eq_some {s : List Char} (h : x.run (c :: s) = some z) :
    ∃ y, x.feed c = some y ∧ y.run s = some z := by
  rw [run] at h
  cases hfeed : x.feed c with
  | none =>
    rw [hfeed] at h
    exact absurd h (by simp)
  | some y =>
    rw [hfeed] at h
    exact ⟨y, rfl, h⟩

/-- Reading a text, character by character from its end. -/
theorem run_concat_eq_some {s : List Char} (h : x.run (s ++ [c]) = some z) :
    ∃ y, x.run s = some y ∧ y.feed c = some z := by
  rw [run_append] at h
  obtain ⟨y, hy, hlast⟩ := Option.bind_eq_some_iff.mp h
  obtain ⟨u, hu, hend⟩ := run_cons_eq_some hlast
  obtain rfl := Option.some.inj hend
  exact ⟨y, hy, hu⟩

/-- A brace at the start of a text is its first token. -/
theorem run_openBrace (s : List Char) :
    initial.run ('\x7b' :: s) = run ⟨.idle, [.openBrace]⟩ s := rfl

theorem string?_eq_some {w : List Char} {t : JsonToken} (h : string? w = some t) :
    ∃ s, t = .str s := by
  obtain ⟨us, -, rfl⟩ := Option.map_eq_some_iff.mp h
  exact ⟨_, rfl⟩

theorem mode_settle (h : x.settle = some y) : y.mode = .idle := by
  obtain ⟨mode, out⟩ := x
  cases mode with
  | idle => exact Option.some.inj h ▸ rfl
  | word w =>
    obtain ⟨t, -, rfl⟩ := Option.map_eq_some_iff.mp h
    rfl
  | number w =>
    obtain ⟨t, -, rfl⟩ := Option.map_eq_some_iff.mp h
    rfl
  | string w => exact absurd h (by simp [settle])
  | escape w => exact absurd h (by simp [settle])

/-- No string is complete only when a text ends. -/
theorem str_mem_of_settle (h : x.settle = some y) {k : Option String} (hk : .str k ∈ y.out) :
    .str k ∈ x.out := by
  rcases Json.settle_cases h with rfl | ⟨t, ht, hout⟩
  · exact hk
  · rw [hout] at hk
    rcases List.mem_cons.mp hk with rfl | hk
    · cases ht
    · exact hk

/-- Whether the next character is inside a string. -/
def quoted (x : Lexer) : Bool :=
  match x.mode with
  | .string _ => true
  | .escape _ => true
  | _ => false

theorem quoted_of_settle (h : x.settle = some y) : x.quoted = false := by
  obtain ⟨mode, out⟩ := x
  cases mode with
  | string w => exact absurd h (by simp [settle])
  | escape w => exact absurd h (by simp [settle])
  | _ => rfl

/-! ## The first and the last token -/

/-- The first token is not a brace, or it is not complete yet and will be none. -/
structure Astray (x : Lexer) : Prop where
  first : x.out.getLast? ≠ some .openBrace
  pending : x.out = [] → x.mode ≠ .idle

theorem IsBare.ne_openBrace {t : JsonToken} (h : IsBare t) : t ≠ .openBrace := by
  rintro rfl
  cases h

theorem astray_of_suffix (h : Astray x) (hsuffix : x.out <:+ y.out) (hne : x.out ≠ []) :
    Astray y := by
  obtain ⟨new, hnew⟩ := hsuffix
  refine ⟨?_, fun hnil => ?_⟩
  · rw [← hnew, List.getLast?_append, List.getLast?_eq_some_getLast hne, Option.some_or,
      ← List.getLast?_eq_some_getLast hne]
    exact h.first
  · rw [← hnew] at hnil
    exact absurd (List.append_eq_nil_iff.mp hnil).2 hne

theorem Astray.settle (h : Astray x) (hy : x.settle = some y) : Astray y ∧ y.out ≠ [] := by
  rcases Json.settle_cases hy with rfl | ⟨t, ht, hout⟩
  · have hne : x.out ≠ [] := fun hnil => h.pending hnil (mode_settle hy)
    exact ⟨h, hne⟩
  · by_cases hnil : x.out = []
    · rw [hnil] at hout
      refine ⟨⟨?_, fun hnone => absurd hout (hnone ▸ (by simp))⟩, by simp [hout]⟩
      rw [hout, List.getLast?_singleton, ne_eq, Option.some.injEq]
      exact IsBare.ne_openBrace ht
    · exact ⟨astray_of_suffix h (suffix_settle hy) hnil, by simp [hout]⟩

theorem Astray.feed (h : Astray x) (hy : x.feed c = some y) : Astray y := by
  by_cases hnil : x.out = []
  · cases step_of_feed hy with
    | close hc ht =>
      obtain ⟨t, rfl⟩ := string?_eq_some ht
      obtain rfl : _ = [] := hnil
      exact ⟨by simp, by simp⟩
    | backslash hc => exact ⟨h.first, fun _ => by simp⟩
    | collect => exact ⟨h.first, fun _ => by simp⟩
    | escaped => exact ⟨h.first, fun _ => by simp⟩
    | letter => exact ⟨h.first, fun _ => by simp⟩
    | digit => exact ⟨h.first, fun _ => by simp⟩
    | next hu hstart =>
      obtain ⟨hsettled, hne⟩ := h.settle hu
      exact astray_of_suffix hsettled hstart.suffix hne
  · exact astray_of_suffix h (suffix_feed hy) hnil

theorem Astray.run {s : List Char} (h : Astray x) (hy : x.run s = some y) : Astray y := by
  induction s using List.reverseRecOn generalizing y with
  | nil =>
    obtain rfl := Option.some.inj hy
    exact h
  | append_singleton s c ih =>
    obtain ⟨u, hu, hfeed⟩ := run_concat_eq_some hy
    exact (ih hu).feed hfeed

/-- A text that opens with anything but a blank or a brace does not open with a brace as its first
token. -/
theorem head?_tokens?_ne {s : List Char} {ts : List JsonToken} (hgap : isGap c = false)
    (hbrace : c ≠ '\x7b') (h : Json.tokens? (c :: s) = some ts) : ts.head? ≠ some .openBrace := by
  obtain ⟨x, y, hx, hsettle, rfl⟩ := Json.tokens?_eq_some h
  obtain ⟨u, hfeed, hrest⟩ := run_cons_eq_some hx
  have hastray : Astray u := by
    cases starts_of_start hfeed with
    | gap hc => exact absurd (hc.symm.trans hgap) (by decide)
    | mark hc =>
      cases hc with
      | openBrace => exact absurd rfl hbrace
      | _ => exact ⟨by simp [initial], by simp⟩
    | _ => exact ⟨by simp [initial], by simp⟩
  rw [List.head?_reverse]
  exact ((hastray.run hrest).settle hsettle).1.first

/-- If the last token of a text is a closing brace, the text ends with it, blanks apart. -/
theorem eq_closeBrace_of_tokens? {s : List Char} {ts : List JsonToken} (hgap : isGap c = false)
    (h : Json.tokens? (s ++ [c]) = some (ts ++ [.closeBrace])) : c = '\x7d' := by
  obtain ⟨x, y, hx, hsettle, hts⟩ := Json.tokens?_eq_some h
  have hout : y.out = .closeBrace :: ts.reverse := by
    rw [← List.reverse_reverse y.out, ← hts, List.reverse_concat]
  obtain ⟨u, -, hfeed⟩ := run_concat_eq_some hx
  rcases Json.settle_cases hsettle with rfl | ⟨t, ht, hlast⟩
  · -- Nothing is pending, so the last token was completed by the last character.
    have hidle := mode_settle hsettle
    cases step_of_feed hfeed with
    | close _ ht =>
      obtain ⟨t, rfl⟩ := string?_eq_some ht
      exact absurd (List.cons.inj hout).1 (by simp)
    | next _ hstart =>
      cases hstart with
      | gap hc => exact absurd (hc.symm.trans hgap) (by decide)
      | mark hc =>
        obtain rfl := (List.cons.inj hout).1
        cases hc
        rfl
      | _ => exact LexMode.noConfusion hidle
    | _ => exact LexMode.noConfusion hidle
  · rw [hlast] at hout
    obtain rfl := (List.cons.inj hout).1
    cases ht

/-! ## Inside and outside of strings -/

/-- Outside of strings no backslash is read, a quote starts a string, and no string is complete. -/
theorem Step.outside (h : Step c x y) (hx : x.quoted = false) :
    c ≠ '\\' ∧ (c = '"' ∧ y.mode = .string [] ∨ c ≠ '"' ∧ y.quoted = false) ∧
      ∀ s, .str s ∈ y.out → .str s ∈ x.out := by
  have hplain : ∀ p : Char → Bool, p c = true → p '\\' = false → p '"' = false →
      c ≠ '\\' ∧ c ≠ '"' := by
    rintro p hc hslash hquote
    constructor <;> rintro rfl
    · exact absurd (hc.symm.trans hslash) (by decide)
    · exact absurd (hc.symm.trans hquote) (by decide)
  cases h with
  | letter hc =>
    obtain ⟨hslash, hquote⟩ := hplain Char.isLower hc (by decide) (by decide)
    exact ⟨hslash, Or.inr ⟨hquote, rfl⟩, fun _ hs => hs⟩
  | digit hc =>
    obtain ⟨hslash, hquote⟩ := hplain isNumeric hc (by decide) (by decide)
    exact ⟨hslash, Or.inr ⟨hquote, rfl⟩, fun _ hs => hs⟩
  | @next _ u _ hu hstart =>
    have hsettled : ∀ s, .str s ∈ u.out → .str s ∈ x.out := fun s hs => str_mem_of_settle hu hs
    cases hstart with
    | gap hc =>
      obtain ⟨hslash, hquote⟩ := hplain isGap hc (by decide) (by decide)
      exact ⟨hslash, Or.inr ⟨hquote, rfl⟩, hsettled⟩
    | mark hc =>
      cases hc <;> refine ⟨by decide, Or.inr ⟨by decide, rfl⟩, fun s hs => hsettled s ?_⟩ <;>
        simpa using hs
    | quote hc =>
      subst hc
      exact ⟨by decide, Or.inl ⟨rfl, rfl⟩, hsettled⟩
    | digit hc =>
      obtain ⟨hslash, hquote⟩ := hplain isNumeric hc (by decide) (by decide)
      exact ⟨hslash, Or.inr ⟨hquote, rfl⟩, hsettled⟩
    | letter hc =>
      obtain ⟨hslash, hquote⟩ := hplain Char.isLower hc (by decide) (by decide)
      exact ⟨hslash, Or.inr ⟨hquote, rfl⟩, hsettled⟩
  | _ => exact absurd hx (by simp [quoted])

/-- Characters without a backslash stand for themselves. -/
theorem string?_of_notMem {w : List Char} (h : '\\' ∉ w) :
    string? w = some (.str (some (String.ofList w))) := by
  have hunits : CodeUnit.units? w = some (w.map .char) := by
    induction w with
    | nil => rfl
    | cons c w ih =>
      rw [CodeUnit.units?_cons (List.ne_of_not_mem_cons h).symm,
        ih (List.not_mem_of_not_mem_cons h), Option.map_some, List.map_cons]
  have hpair : ∀ w : List Char, CodeUnit.pair? (w.map .char) = some w := by
    intro w
    induction w with
    | nil => rfl
    | cons c w ih => rw [List.map_cons, CodeUnit.pair?, ih, Option.map_some]
  rw [string?, hunits, Option.map_some, hpair, Option.map_some]

/-- A text that a lexer can read where something new may start. -/
def Lexes (s : List Char) : Prop :=
  ∃ out y, run ⟨.idle, out⟩ s = some y

/-- Two lexers that read the same characters, one of them inside a string where the other is not. -/
inductive Opposed (x y : Lexer) : Prop
  | outside {w} (hx : x.quoted = false) (hy : y.mode = .string w)
  | inside {w out} (hx : x.mode = .string w) (hslash : '\\' ∉ w) (hquoted : y.quoted = false)
      (hy : run ⟨.idle, out⟩ w.reverse = some y)

/-- Two opposed lexers stay so, and a string that the one has read can be read by the other. -/
theorem Opposed.feed {x' y' : Lexer} (h : Opposed x y) (hx : x.feed c = some x')
    (hy : y.feed c = some y') :
    Opposed x' y' ∧ ∀ k, .str (some k) ∈ x'.out → .str (some k) ∈ x.out ∨ Lexes k.toList := by
  cases h with
  | outside hquoted hmode =>
    obtain ⟨hslash, hcases, hstr⟩ := (step_of_feed hx).outside hquoted
    refine ⟨?_, fun k hk => Or.inl (hstr _ hk)⟩
    obtain ⟨mode, out⟩ := y
    subst hmode
    rcases hcases with ⟨rfl, hstring⟩ | ⟨hquote, houtside⟩
    · cases step_of_feed hy with
      | close => exact .inside hstring List.not_mem_nil rfl rfl
      | backslash hc => exact absurd hc (by decide)
      | collect hc => exact absurd rfl hc
      | next hu => exact absurd hu (by simp [settle])
    · cases step_of_feed hy with
      | close hc => exact absurd hc hquote
      | backslash hc => exact absurd hc hslash
      | collect => exact .outside houtside rfl
      | next hu => exact absurd hu (by simp [settle])
  | @inside w out hmode hfree hquoted hrun =>
    obtain ⟨hslash, hcases, -⟩ := (step_of_feed hy).outside hquoted
    obtain ⟨mode, xout⟩ := x
    subst hmode
    cases step_of_feed hx with
    | close hc ht =>
      rcases hcases with ⟨-, hstring⟩ | ⟨hquote, -⟩
      · refine ⟨.outside rfl hstring, fun k hk => ?_⟩
        rw [string?_of_notMem (fun hm => hfree (List.mem_reverse.mp hm)), Option.some.injEq] at ht
        rcases List.mem_cons.mp hk with heq | hk
        · rw [← ht, JsonToken.str.injEq, Option.some.injEq] at heq
          refine Or.inr ⟨out, y, ?_⟩
          rw [heq, String.toList_ofList, hrun]
        · exact Or.inl hk
      · exact absurd hc hquote
    | backslash hc => exact absurd hc hslash
    | collect hquote _ =>
      rcases hcases with ⟨hc, -⟩ | ⟨-, houtside⟩
      · exact absurd hc hquote
      · have hmore : Lexer.run ⟨.idle, out⟩ (c :: w).reverse = some y' := by
          rw [List.reverse_cons, run_append, hrun, Option.bind_some, Lexer.run, hy]
          rfl
        exact ⟨.inside rfl (List.not_mem_cons_of_ne_of_not_mem hslash.symm hfree) houtside hmore,
          fun k hk => Or.inl hk⟩
    | next hu => exact absurd hu (by simp [settle])

theorem Opposed.run {x' y' : Lexer} {s : List Char} (h : Opposed x y) (hx : x.run s = some x')
    (hy : y.run s = some y') :
    Opposed x' y' ∧ ∀ k, .str (some k) ∈ x'.out → .str (some k) ∈ x.out ∨ Lexes k.toList := by
  induction s using List.reverseRecOn generalizing x' y' with
  | nil =>
    obtain rfl := Option.some.inj hx
    obtain rfl := Option.some.inj hy
    exact ⟨h, fun k hk => Or.inl hk⟩
  | append_singleton s c ih =>
    obtain ⟨u, hu, hfeed⟩ := run_concat_eq_some hx
    obtain ⟨u', hu', hfeed'⟩ := run_concat_eq_some hy
    obtain ⟨hopposed, hstr⟩ := ih hu hu'
    obtain ⟨hopposed', hstr'⟩ := hopposed.feed hfeed hfeed'
    refine ⟨hopposed', fun k hk => ?_⟩
    rcases hstr' k hk with hk | hk
    · exact hstr k hk
    · exact Or.inr hk

/-- A brace is read inside a string, or it is a token. -/
theorem exists_string_of_openBrace (h : x.feed '\x7b' = some y) (hbrace : .openBrace ∉ y.out) :
    ∃ w, y.mode = .string w := by
  cases step_of_feed h with
  | close hc => exact absurd hc (by decide)
  | backslash hc => exact absurd hc (by decide)
  | collect => exact ⟨_, rfl⟩
  | escaped => exact ⟨_, rfl⟩
  | letter hc => exact absurd hc (by decide)
  | digit hc => exact absurd hc (by decide)
  | next _ hstart =>
    cases hstart with
    | gap hc => exact absurd hc (by decide)
    | mark hc =>
      cases hc
      exact absurd List.mem_cons_self hbrace
    | quote hc => exact absurd hc (by decide)
    | digit hc => exact absurd hc (by decide)
    | letter hc => exact absurd hc (by decide)

/-- If the brace at the start of a text is read inside a string by another lexer, all the strings of the
text are read by that lexer as tokens. -/
theorem lexes_of_enclosed {s : List Char} {ts : List JsonToken} {k : String}
    (hs : Json.tokens? ('\x7b' :: s) = some ts) (hy : y.run ('\x7b' :: s) = some z)
    (hbrace : .openBrace ∉ z.out) (hk : .str (some k) ∈ ts) : Lexes k.toList := by
  obtain ⟨x, u, hx, hsettle, rfl⟩ := Json.tokens?_eq_some hs
  rw [run_openBrace] at hx
  obtain ⟨y', hfeed, hrest⟩ := run_cons_eq_some hy
  obtain ⟨w, hw⟩ := exists_string_of_openBrace hfeed fun hm =>
    hbrace ((suffix_run hrest).subset hm)
  have hopposed : Opposed ⟨.idle, [.openBrace]⟩ y' := .outside rfl hw
  have hout : .str (some k) ∈ x.out := str_mem_of_settle hsettle (List.mem_reverse.mp hk)
  rcases (hopposed.run hx hrest).2 k hout with hfirst | hlexes
  · exact absurd hfirst (by simp)
  · exact hlexes

end SinkAudit.Lexer

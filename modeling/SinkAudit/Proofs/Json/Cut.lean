import SinkAudit.Proofs.Json.RoundTrip

/-!
# Texts that are cut short

An object ends with its own brace, so a text that starts with a brace and is a value is no value any
more if it is cut off anywhere before its last character.  Two things could go wrong with that.  The cut
may fall into a word or a number and leave another one: but these complete nothing that is open.  Or the
machine may be done at the cut already: but then it would refuse the brace that comes later.

* `Lexer.suffix_run`, `Lexer.settle_closeBrace`: tokens are only added, and a brace is one of them.
* `JsonMachine.Begun`: after the first token, nothing is open only once a value is complete.
* `Json.parse?_cut`: the statement above.
-/

namespace SinkAudit

/-! ## Tokens are only added -/

namespace Lexer

variable {x y z : Lexer} {c : Char}

theorem suffix_settle (h : x.settle = some y) : x.out <:+ y.out := by
  obtain ⟨mode, out⟩ := x
  cases mode with
  | idle =>
    obtain rfl := Option.some.inj h
    exact List.suffix_refl _
  | word w =>
    obtain ⟨t, -, rfl⟩ := Option.map_eq_some_iff.mp h
    exact List.suffix_cons t out
  | number w =>
    obtain ⟨n, -, rfl⟩ := Option.map_eq_some_iff.mp h
    exact List.suffix_cons _ out
  | string w => exact absurd h (by simp [settle])
  | escape w => exact absurd h (by simp [settle])

theorem suffix_start {out : List JsonToken} (h : start out c = some y) : out <:+ y.out := by
  have hone : ∀ mode t, some (⟨mode, t :: out⟩ : Lexer) = some y → out <:+ y.out := by
    rintro mode t ⟨⟩
    exact List.suffix_cons t out
  have hnone : ∀ mode, some (⟨mode, out⟩ : Lexer) = some y → out <:+ y.out := by
    rintro mode ⟨⟩
    exact List.suffix_refl out
  have hite : ∀ {p : Prop} [Decidable p] {r r' : Option Lexer}, (r = some y → out <:+ y.out) →
      (r' = some y → out <:+ y.out) → (if p then r else r') = some y → out <:+ y.out := by
    intro p _ r r' hr hr' h
    split at h
    · exact hr h
    · exact hr' h
  -- Blanks, the six marks, then what starts a string, a number or a word.
  refine hite (hnone .idle) ?_ h
  refine hite (hone .idle .openBrace) ?_
  refine hite (hone .idle .closeBrace) ?_
  refine hite (hone .idle .openBracket) ?_
  refine hite (hone .idle .closeBracket) ?_
  refine hite (hone .idle .comma) ?_
  refine hite (hone .idle .colon) ?_
  refine hite (hnone (.string [])) ?_
  refine hite (hnone (.number [c])) ?_
  exact hite (hnone (.word [c])) fun hnothing => absurd hnothing (by simp)

theorem suffix_feed (h : x.feed c = some y) : x.out <:+ y.out := by
  -- A character that ends a word or a number starts something new after it.
  have hnext : (x.settle.bind fun y => start y.out c) = some y → x.out <:+ y.out := by
    intro hbind
    obtain ⟨u, hu, hy⟩ := Option.bind_eq_some_iff.mp hbind
    exact (suffix_settle hu).trans (suffix_start hy)
  obtain ⟨mode, out⟩ := x
  cases mode with
  | idle => exact suffix_start h
  | word w =>
    simp only [feed] at h
    split at h
    · obtain rfl := Option.some.inj h
      exact List.suffix_refl out
    · exact hnext h
  | number w =>
    simp only [feed] at h
    split at h
    · obtain rfl := Option.some.inj h
      exact List.suffix_refl out
    · exact hnext h
  | string w =>
    simp only [feed] at h
    split_ifs at h
    · obtain ⟨t, -, rfl⟩ := Option.map_eq_some_iff.mp h
      exact List.suffix_cons t out
    · obtain rfl := Option.some.inj h
      exact List.suffix_refl out
    · obtain rfl := Option.some.inj h
      exact List.suffix_refl out
  | escape w =>
    obtain rfl := Option.some.inj h
    exact List.suffix_refl out

/-- Reading on only adds tokens. -/
theorem suffix_run {s : List Char} (h : x.run s = some y) : x.out <:+ y.out := by
  induction s generalizing x with
  | nil =>
    obtain rfl := Option.some.inj h
    exact List.suffix_refl _
  | cons c s ih =>
    rw [run] at h
    cases hfeed : x.feed c with
    | none =>
      rw [hfeed] at h
      exact absurd h (by simp)
    | some u =>
      rw [hfeed] at h
      exact (suffix_feed hfeed).trans (ih h)

/-- A brace at the end of a text is a token of its own, since the text does not stop in a string. -/
theorem settle_closeBrace (h : x.feed '\x7d' = some y) (hz : y.settle = some z) :
    ∃ out, x.out <:+ out ∧ z.out = .closeBrace :: out := by
  have hstart : ∀ out, start out '\x7d' = some ⟨.idle, .closeBrace :: out⟩ := fun out => rfl
  have hclose : ∀ u : Lexer, start u.out '\x7d' = some y → z.out = .closeBrace :: u.out := by
    intro u hu
    rw [hstart, Option.some.injEq] at hu
    subst hu
    obtain rfl := Option.some.inj hz
    rfl
  have hnext : (x.settle.bind fun u => start u.out '\x7d') = some y →
      ∃ out, x.out <:+ out ∧ z.out = .closeBrace :: out := by
    intro hbind
    obtain ⟨u, hu, hy⟩ := Option.bind_eq_some_iff.mp hbind
    exact ⟨u.out, suffix_settle hu, hclose u hy⟩
  obtain ⟨mode, out⟩ := x
  cases mode with
  | idle => exact ⟨out, List.suffix_refl out, hclose ⟨.idle, out⟩ h⟩
  | word w => exact hnext h
  | number w => exact hnext h
  | string w =>
    obtain rfl := Option.some.inj h
    exact absurd hz (by simp [settle])
  | escape w =>
    obtain rfl := Option.some.inj h
    exact absurd hz (by simp [settle])

end Lexer

/-! ## What is open stays open -/

namespace JsonMachine

variable {m n : JsonMachine}

theorem run_append (m : JsonMachine) (ts us : List JsonToken) :
    m.run (ts ++ us) = (m.run ts).bind fun n => n.run us := by
  induction ts generalizing m with
  | nil => rfl
  | cons t ts ih =>
    rw [List.cons_append, run, run]
    cases m.feed t with
    | none => rfl
    | some n => exact ih n

/-- Something has been read: nothing is open only if a value is complete. -/
def Begun (m : JsonMachine) : Prop := m.stack = [] → ∃ v, m.expect = .after v

theorem begun_of_stack_ne_nil (h : m.stack ≠ []) : m.Begun := fun hnil => absurd hnil h

theorem Begun.stack_ne_nil (h : m.Begun) (hexpect : ∀ v, m.expect ≠ .after v) : m.stack ≠ [] := by
  intro hnil
  obtain ⟨v, hv⟩ := h hnil
  exact hexpect v hv

/-- A value that starts leaves open what is open. -/
theorem stack_ne_nil_of_startValue {up : List JsonFrame} {t : JsonToken} (hup : up ≠ [])
    (h : startValue up t = some n) : n.stack ≠ [] := by
  cases t <;> simp only [startValue, Option.some.injEq, reduceCtorEq] at h
  all_goals
    subst h
    first
      | exact hup
      | exact List.cons_ne_nil _ _

theorem begun_of_afterValue {v : Json} {up : List JsonFrame} {t : JsonToken}
    (h : afterValue v up t = some n) : n.Begun := by
  unfold afterValue at h
  split at h
  · obtain rfl := Option.some.inj h
    exact begun_of_stack_ne_nil (List.cons_ne_nil _ _)
  · obtain rfl := Option.some.inj h
    exact fun _ => ⟨_, rfl⟩
  · obtain rfl := Option.some.inj h
    exact begun_of_stack_ne_nil (List.cons_ne_nil _ _)
  · obtain rfl := Option.some.inj h
    exact fun _ => ⟨_, rfl⟩
  · exact absurd h (by simp)

theorem Begun.feed {t : JsonToken} (hm : m.Begun) (h : m.feed t = some n) : n.Begun := by
  obtain ⟨expect, stack⟩ := m
  cases expect with
  | value =>
    have hopen := hm.stack_ne_nil fun v hv => JsonExpect.noConfusion hv
    exact begun_of_stack_ne_nil (stack_ne_nil_of_startValue hopen h)
  | firstItem =>
    have hopen := hm.stack_ne_nil fun v hv => JsonExpect.noConfusion hv
    simp only [JsonMachine.feed] at h
    split at h
    · obtain rfl := Option.some.inj h
      exact fun _ => ⟨_, rfl⟩
    · exact begun_of_stack_ne_nil (stack_ne_nil_of_startValue hopen h)
  | firstName =>
    have hopen := hm.stack_ne_nil fun v hv => JsonExpect.noConfusion hv
    simp only [JsonMachine.feed] at h
    split at h
    · obtain rfl := Option.some.inj h
      exact fun _ => ⟨_, rfl⟩
    · obtain rfl := Option.some.inj h
      exact begun_of_stack_ne_nil hopen
    · exact absurd h (by simp)
  | name =>
    have hopen := hm.stack_ne_nil fun v hv => JsonExpect.noConfusion hv
    simp only [JsonMachine.feed] at h
    split at h
    · obtain rfl := Option.some.inj h
      exact begun_of_stack_ne_nil hopen
    · exact absurd h (by simp)
  | colon k =>
    simp only [JsonMachine.feed] at h
    split at h
    · obtain rfl := Option.some.inj h
      exact begun_of_stack_ne_nil (List.cons_ne_nil _ _)
    · exact absurd h (by simp)
  | after v => exact begun_of_afterValue h

theorem Begun.run {ts : List JsonToken} (hm : m.Begun) (h : m.run ts = some n) : n.Begun := by
  induction ts generalizing m with
  | nil =>
    obtain rfl := Option.some.inj h
    exact hm
  | cons t ts ih =>
    rw [JsonMachine.run] at h
    cases hfeed : m.feed t with
    | none =>
      rw [hfeed] at h
      exact absurd h (by simp)
    | some u =>
      rw [hfeed] at h
      exact ih (hm.feed hfeed) h

/-- A token that is a value without being a string, an array or an object. -/
inductive IsBare : JsonToken → Prop
  | null : IsBare .null
  | bool (b : Bool) : IsBare (.bool b)
  | num (k : Number) : IsBare (.num k)

/-- A word or a number completes nothing that is open. -/
theorem Begun.result?_feed_bare {t : JsonToken} (hm : m.Begun) (ht : IsBare t)
    (h : m.feed t = some n) : n.result? = none := by
  have hresult : n.stack ≠ [] → n.result? = none := by
    intro hopen
    obtain ⟨expect, stack⟩ := n
    cases stack with
    | nil => exact absurd rfl hopen
    | cons f up => cases expect <;> rfl
  apply hresult
  obtain ⟨expect, stack⟩ := m
  cases expect with
  | value =>
    have hopen := hm.stack_ne_nil fun v hv => JsonExpect.noConfusion hv
    exact stack_ne_nil_of_startValue hopen h
  | firstItem =>
    have hopen := hm.stack_ne_nil fun v hv => JsonExpect.noConfusion hv
    have hstart : startValue stack t = some n := by
      cases ht <;> exact h
    exact stack_ne_nil_of_startValue hopen hstart
  | firstName => cases ht <;> exact absurd h (by simp [JsonMachine.feed])
  | name => cases ht <;> exact absurd h (by simp [JsonMachine.feed])
  | colon k => cases ht <;> exact absurd h (by simp [JsonMachine.feed])
  | after v => cases ht <;> exact absurd h (by simp [JsonMachine.feed, afterValue])

/-- A machine that is done refuses every further token. -/
theorem run_cons_of_result? {v : Json} (h : m.result? = some v) (t : JsonToken)
    (ts : List JsonToken) : m.run (t :: ts) = none := by
  obtain ⟨expect, stack⟩ := m
  cases stack with
  | cons f up => cases expect <;> exact absurd h (by simp [result?])
  | nil =>
    cases expect with
    | after u =>
      have hrefuse : feed ⟨.after u, []⟩ t = none := by cases t <;> rfl
      rw [JsonMachine.run, hrefuse]
    | _ => exact absurd h (by simp [result?])

/-- A text that starts with a brace is no value if its last token is a word or a number. -/
theorem result?_openBrace_bare {t : JsonToken} (ht : IsBare t) (ts : List JsonToken) :
    (initial.run (.openBrace :: (ts ++ [t]))).bind result? = none := by
  have hfirst : initial.feed .openBrace = some ⟨.firstName, [.obj []]⟩ := rfl
  have hstart : Begun ⟨.firstName, [.obj []]⟩ := begun_of_stack_ne_nil (List.cons_ne_nil _ _)
  rw [run_cons hfirst, run_append]
  cases hrun : run ⟨.firstName, [.obj []]⟩ ts with
  | none => rfl
  | some m =>
    rw [Option.bind_some]
    cases hfeed : m.feed t with
    | none =>
      rw [JsonMachine.run, hfeed]
      rfl
    | some n =>
      rw [run_cons hfeed]
      exact (hstart.run hrun).result?_feed_bare ht hfeed

end JsonMachine

namespace Json

open JsonMachine (IsBare)

theorem tokens?_eq_some {s : List Char} {ts : List JsonToken} (h : tokens? s = some ts) :
    ∃ x y, Lexer.initial.run s = some x ∧ x.settle = some y ∧ ts = y.out.reverse := by
  obtain ⟨y, hy, rfl⟩ := Option.map_eq_some_iff.mp h
  obtain ⟨x, hx, hsettle⟩ := Option.bind_eq_some_iff.mp hy
  exact ⟨x, y, hx, hsettle, rfl⟩

/-- What the lexer has read of a text, when it stops neither in a string nor between tokens, ends with
a word or a number. -/
theorem settle_cases {x y : Lexer} (h : x.settle = some y) :
    x = y ∨ ∃ t, IsBare t ∧ y.out = t :: x.out := by
  obtain ⟨mode, out⟩ := x
  cases mode with
  | idle => exact Or.inl (Option.some.inj h)
  | word w =>
    obtain ⟨t, ht, rfl⟩ := Option.map_eq_some_iff.mp h
    refine Or.inr ⟨t, ?_, rfl⟩
    unfold Lexer.word? at ht
    split at ht
    · exact Option.some.inj ht ▸ .null
    · exact Option.some.inj ht ▸ .bool true
    · exact Option.some.inj ht ▸ .bool false
    · exact absurd ht (by simp)
  | number w =>
    obtain ⟨k, -, rfl⟩ := Option.map_eq_some_iff.mp h
    exact Or.inr ⟨.num k, .num k, rfl⟩
  | string w => exact absurd h (by simp [Lexer.settle])
  | escape w => exact absurd h (by simp [Lexer.settle])

/-- The tokens of a text that goes on to a brace go on after those that were complete before. -/
theorem exists_tokens?_append {s r : List Char} {x : Lexer} {ts : List JsonToken}
    (hx : Lexer.initial.run s = some x) (h : tokens? (s ++ (r ++ ['\x7d'])) = some ts) :
    ∃ t us, ts = x.out.reverse ++ t :: us := by
  obtain ⟨x₂, y, hx₂, hsettle, rfl⟩ := tokens?_eq_some h
  rw [Lexer.run_append, hx, Option.bind_some, Lexer.run_append] at hx₂
  obtain ⟨x₁, hx₁, hlast⟩ := Option.bind_eq_some_iff.mp hx₂
  have hfeed : x₁.feed '\x7d' = some x₂ := by
    rw [Lexer.run] at hlast
    cases hf : x₁.feed '\x7d' with
    | none =>
      rw [hf] at hlast
      exact absurd hlast (by simp)
    | some u =>
      rw [hf] at hlast
      exact hlast
  obtain ⟨out, hout, hbrace⟩ := Lexer.settle_closeBrace hfeed hsettle
  obtain ⟨l, hl⟩ := (Lexer.suffix_run hx₁).trans hout
  have htokens : y.out.reverse = x.out.reverse ++ (l.reverse ++ [.closeBrace]) := by
    rw [hbrace, ← hl, List.reverse_cons, List.reverse_append, List.append_assoc]
  have hmore : l.reverse ++ [JsonToken.closeBrace] ≠ [] := by simp
  obtain ⟨t, us, hus⟩ := List.exists_cons_of_ne_nil hmore
  exact ⟨t, us, by rw [htokens, hus]⟩

/-- An object that is cut off before its last brace is no value. -/
theorem parse?_cut {p r : List Char} {v : Json}
    (h : parse? (String.ofList ('\x7b' :: (p ++ (r ++ ['\x7d'])))) = some v) :
    parse? (String.ofList ('\x7b' :: p)) = none := by
  rw [parse?, String.toList_ofList] at h ⊢
  cases hcut : tokens? ('\x7b' :: p) with
  | none => rfl
  | some ts =>
    obtain ⟨x, y, hx, hsettle, rfl⟩ := tokens?_eq_some hcut
    dsimp only
    rcases settle_cases hsettle with rfl | ⟨t, ht, hout⟩
    · -- Between two tokens: a machine that is done there would refuse the tokens that follow.
      cases hwhole : tokens? ('\x7b' :: (p ++ (r ++ ['\x7d']))) with
      | none =>
        rw [hwhole] at h
        exact absurd h (by simp)
      | some us =>
        obtain ⟨t, us, rfl⟩ := exists_tokens?_append hx hwhole
        rw [hwhole] at h
        dsimp only at h
        rw [JsonMachine.run_append] at h
        cases hrun : JsonMachine.initial.run x.out.reverse with
        | none => rfl
        | some m =>
          rw [hrun, Option.bind_some] at h
          rw [Option.bind_some]
          cases hresult : m.result? with
          | none => rfl
          | some u =>
            rw [JsonMachine.run_cons_of_result? hresult] at h
            exact absurd h (by simp)
    · -- In a word or a number: it completes nothing that is open.
      have hopen : Lexer.initial.run ('\x7b' :: p) = Lexer.run ⟨.idle, [.openBrace]⟩ p := rfl
      obtain ⟨l, hl⟩ := Lexer.suffix_run (hopen ▸ hx)
      have htokens : y.out.reverse = .openBrace :: (l.reverse ++ [t]) := by
        rw [hout, ← hl, List.reverse_cons, List.reverse_append, List.append_assoc]
        rfl
      rw [htokens]
      exact JsonMachine.result?_openBrace_bare ht l.reverse

end Json

end SinkAudit

import Mathlib.Data.List.Induction
import SinkAudit.Proofs.Json.Cut

/-!
# What the machine has read

The machine forgets nothing.  From what is still open and from what may come next, the tokens that were
read can be written down again (`JsonMachine.read`); so a text is read as a value only if its tokens are
the ones that the value is written with.

The brackets that are open can be followed without the values that stand between them
(`JsonMachine.kinds`).

* `JsonMachine.read_feed`, `JsonMachine.read_run`: a token that is read is the last one written down.
* `Json.tokens?_of_parse?`: the tokens of a text that is a value.
* `JsonMachine.kinds_feed`: what a token does to the brackets that are open.
-/

namespace SinkAudit

/-! ## Writing down what was read -/

namespace Json

/-- The tokens of items, each with a comma behind it. -/
def leadItems (items : List Json) : List JsonToken :=
  items.flatMap fun v => v.toTokens ++ [.comma]

/-- The tokens of members, each with a comma behind it. -/
def leadMembers (members : List (Option String × Json)) : List JsonToken :=
  members.flatMap fun m => .str m.1 :: .colon :: (m.2.toTokens ++ [.comma])

theorem itemTokens_concat (vs : List Json) (v : Json) :
    itemTokens (vs ++ [v]) = leadItems vs ++ v.toTokens := by
  induction vs with
  | nil => rw [List.nil_append, itemTokens, leadItems, List.flatMap_nil, List.nil_append]
  | cons u vs ih =>
    have hlead : leadItems (u :: vs) = u.toTokens ++ [.comma] ++ leadItems vs := List.flatMap_cons
    obtain ⟨w, ws, hw⟩ := List.exists_cons_of_ne_nil (List.concat_ne_nil v vs)
    rw [List.cons_append, hw, itemTokens, ← hw, ih, hlead, List.append_assoc, List.append_assoc,
      List.singleton_append]

theorem memberTokens_concat (ms : List (Option String × Json)) (k : Option String) (v : Json) :
    memberTokens (ms ++ [(k, v)]) = leadMembers ms ++ .str k :: .colon :: v.toTokens := by
  induction ms with
  | nil => rw [List.nil_append, memberTokens, leadMembers, List.flatMap_nil, List.nil_append]
  | cons m ms ih =>
    have hlead : leadMembers (m :: ms) =
        .str m.1 :: .colon :: (m.2.toTokens ++ [.comma]) ++ leadMembers ms := List.flatMap_cons
    obtain ⟨w, ws, hw⟩ := List.exists_cons_of_ne_nil (List.concat_ne_nil (k, v) ms)
    rw [List.cons_append, hw, memberTokens, ← hw, ih, hlead]
    simp only [List.append_assoc, List.cons_append, List.nil_append]

end Json

/-- The tokens of what is open, up to where it goes on. -/
def JsonFrame.read : JsonFrame → List JsonToken
  | arr items => .openBracket :: Json.leadItems items.reverse
  | obj members => .openBrace :: Json.leadMembers members.reverse
  | member members name => .openBrace :: (Json.leadMembers members.reverse ++ [.str name, .colon])

/-- The tokens behind what is open. -/
def JsonExpect.read : JsonExpect → List JsonToken
  | .colon k => [.str k]
  | .after v => v.toTokens
  | _ => []

namespace JsonMachine

/-- The tokens of what is open, outermost first. -/
def readStack (stack : List JsonFrame) : List JsonToken :=
  stack.reverse.flatMap JsonFrame.read

theorem readStack_cons (f : JsonFrame) (up : List JsonFrame) :
    readStack (f :: up) = readStack up ++ f.read := by
  rw [readStack, List.reverse_cons, List.flatMap_append, List.flatMap_singleton, readStack]

/-- The tokens that were read. -/
def read (m : JsonMachine) : List JsonToken :=
  readStack m.stack ++ m.expect.read

/-- Where a first item or a first name may come, nothing has been read since the bracket. -/
def Fresh (m : JsonMachine) : Prop :=
  match m.expect with
  | .firstItem => ∃ up, m.stack = .arr [] :: up
  | .firstName => ∃ up, m.stack = .obj [] :: up
  | _ => True

variable {m n : JsonMachine} {t : JsonToken} {ts : List JsonToken} {v : Json}

theorem read_startValue {up : List JsonFrame} (h : startValue up t = some n) :
    n.Fresh ∧ n.read = readStack up ++ [t] := by
  cases t <;> simp only [startValue, Option.some.injEq, reduceCtorEq] at h <;> subst h
  case openBrace => exact ⟨⟨up, rfl⟩, by rw [read, readStack_cons, List.append_assoc]; rfl⟩
  case openBracket => exact ⟨⟨up, rfl⟩, by rw [read, readStack_cons, List.append_assoc]; rfl⟩
  all_goals exact ⟨trivial, by simp only [read, JsonExpect.read, Json.toTokens]⟩

theorem read_afterValue {stack : List JsonFrame} (h : afterValue v stack t = some n) :
    n.Fresh ∧ n.read = readStack stack ++ v.toTokens ++ [t] := by
  unfold afterValue at h
  split at h
  case h_5 => exact absurd h (by simp)
  all_goals
    obtain rfl := Option.some.inj h
    refine ⟨trivial, ?_⟩
    simp [read, readStack_cons, JsonFrame.read, JsonExpect.read, Json.toTokens,
      Json.itemTokens_concat, Json.memberTokens_concat, Json.leadItems, Json.leadMembers]

/-- A token that is read is the last one written down. -/
theorem read_feed (hm : m.Fresh) (h : m.feed t = some n) : n.Fresh ∧ n.read = m.read ++ [t] := by
  have hstart : ∀ {up}, startValue up t = some n → n.Fresh ∧ n.read = readStack up ++ [] ++ [t] := by
    intro up h
    rw [List.append_nil]
    exact read_startValue h
  obtain ⟨expect, stack⟩ := m
  cases expect with
  | value => exact hstart h
  | firstItem =>
    obtain ⟨up, rfl⟩ : ∃ up, stack = .arr [] :: up := hm
    simp only [feed] at h
    split at h
    case h_1 up' hstack =>
      obtain rfl := (List.cons.inj hstack).2
      obtain rfl := Option.some.inj h
      refine ⟨trivial, ?_⟩
      simp [read, readStack_cons, JsonFrame.read, JsonExpect.read, Json.toTokens, Json.itemTokens,
        Json.leadItems]
    case h_2 => exact hstart h
  | firstName =>
    obtain ⟨up, rfl⟩ : ∃ up, stack = .obj [] :: up := hm
    simp only [feed] at h
    split at h
    case h_1 up' hstack =>
      obtain rfl := (List.cons.inj hstack).2
      obtain rfl := Option.some.inj h
      refine ⟨trivial, ?_⟩
      simp [read, readStack_cons, JsonFrame.read, JsonExpect.read, Json.toTokens, Json.memberTokens,
        Json.leadMembers]
    case h_2 =>
      obtain rfl := Option.some.inj h
      exact ⟨trivial, by simp [read, JsonExpect.read]⟩
    case h_3 => exact absurd h (by simp)
  | name =>
    simp only [feed] at h
    split at h
    case h_1 =>
      obtain rfl := Option.some.inj h
      exact ⟨trivial, by simp [read, JsonExpect.read]⟩
    case h_2 => exact absurd h (by simp)
  | colon k =>
    simp only [feed] at h
    split at h
    case h_1 =>
      obtain rfl := Option.some.inj h
      exact ⟨trivial, by simp [read, readStack_cons, JsonFrame.read, JsonExpect.read]⟩
    case h_2 => exact absurd h (by simp)
  | after v => exact read_afterValue h

/-- A list of tokens is read if its first token is read, and then the rest. -/
theorem run_cons_eq_some (h : m.run (t :: ts) = some n) :
    ∃ k, m.feed t = some k ∧ k.run ts = some n := by
  rw [run] at h
  cases hfeed : m.feed t with
  | none =>
    rw [hfeed] at h
    exact absurd h (by simp)
  | some k =>
    rw [hfeed] at h
    exact ⟨k, rfl, h⟩

/-- Reading a list of tokens, token by token from its end. -/
theorem run_concat_eq_some (h : m.run (ts ++ [t]) = some n) :
    ∃ k, m.run ts = some k ∧ k.feed t = some n := by
  rw [run_append] at h
  obtain ⟨k, hk, hlast⟩ := Option.bind_eq_some_iff.mp h
  obtain ⟨u, hu, hend⟩ := run_cons_eq_some hlast
  obtain rfl := Option.some.inj hend
  exact ⟨k, hk, hu⟩

theorem read_run (hm : m.Fresh) (h : m.run ts = some n) : n.Fresh ∧ n.read = m.read ++ ts := by
  induction ts using List.reverseRecOn generalizing n with
  | nil =>
    obtain rfl := Option.some.inj h
    exact ⟨hm, (List.append_nil _).symm⟩
  | append_singleton ts t ih =>
    obtain ⟨k, hk, hfeed⟩ := run_concat_eq_some h
    obtain ⟨hfresh, hread⟩ := ih hk
    rw [← List.append_assoc, ← hread]
    exact read_feed hfresh hfeed

theorem result?_eq_some (h : m.result? = some v) : m.expect = .after v ∧ m.stack = [] := by
  unfold result? at h
  split at h
  case h_1 u =>
    obtain rfl := Option.some.inj h
    exact ⟨rfl, rfl⟩
  case h_2 => exact absurd h (by simp)

/-- Tokens that are put together to a value are the tokens of the value. -/
theorem eq_toTokens (h : (initial.run ts).bind result? = some v) : ts = v.toTokens := by
  obtain ⟨m, hrun, hresult⟩ := Option.bind_eq_some_iff.mp h
  obtain ⟨hexpect, hstack⟩ := result?_eq_some hresult
  have hread := (read_run (m := initial) trivial hrun).2
  rw [read, hexpect, hstack] at hread
  exact hread.symm

/-! ## Brackets that are open -/

/-- Which brackets are open, innermost first; a brace counts as `true`. -/
def kinds (m : JsonMachine) : List Bool :=
  m.stack.map fun f => match f with
    | .arr _ => false
    | _ => true

/-- What a token does to the brackets that are open. -/
def Nests : JsonToken → List Bool → List Bool → Prop
  | .openBrace, before, after => after = true :: before
  | .openBracket, before, after => after = false :: before
  | .closeBrace, before, after => before = true :: after
  | .closeBracket, before, after => before = false :: after
  | _, before, after => after = before

theorem kinds_feed (hm : m.Fresh) (h : m.feed t = some n) : Nests t m.kinds n.kinds := by
  have hstart : ∀ {up e}, startValue up t = some n → Nests t (kinds ⟨e, up⟩) n.kinds := by
    intro up e h
    cases t <;> simp only [startValue, Option.some.injEq, reduceCtorEq] at h <;> subst h <;> rfl
  obtain ⟨expect, stack⟩ := m
  cases expect with
  | value => exact hstart h
  | firstItem =>
    simp only [feed] at h
    split at h
    case h_1 =>
      obtain rfl := Option.some.inj h
      rfl
    case h_2 => exact hstart h
  | firstName =>
    obtain ⟨up, rfl⟩ : ∃ up, stack = .obj [] :: up := hm
    simp only [feed] at h
    split at h
    case h_1 up' hstack =>
      obtain rfl := Option.some.inj h
      obtain rfl := (List.cons.inj hstack).2
      rfl
    case h_2 =>
      obtain rfl := Option.some.inj h
      rfl
    case h_3 => exact absurd h (by simp)
  | name =>
    simp only [feed] at h
    split at h
    case h_1 =>
      obtain rfl := Option.some.inj h
      rfl
    case h_2 => exact absurd h (by simp)
  | colon k =>
    simp only [feed] at h
    split at h
    case h_1 =>
      obtain rfl := Option.some.inj h
      rfl
    case h_2 => exact absurd h (by simp)
  | after v =>
    simp only [feed] at h
    unfold afterValue at h
    split at h
    case h_5 => exact absurd h (by simp)
    all_goals
      obtain rfl := Option.some.inj h
      rfl

/-- How many braces are open after some tokens, latest first. -/
def depth : List JsonToken → Nat
  | [] => 0
  | .openBrace :: out => depth out + 1
  | .closeBrace :: out => depth out - 1
  | _ :: out => depth out

/-- The braces that are open are those that were opened and not closed. -/
theorem depth_eq_count {out : List JsonToken} (h : initial.run out.reverse = some m) :
    depth out = m.kinds.count true := by
  induction out generalizing m with
  | nil =>
    obtain rfl := Option.some.inj h
    rfl
  | cons t out ih =>
    rw [List.reverse_cons] at h
    obtain ⟨k, hk, hfeed⟩ := run_concat_eq_some h
    have hcount := ih hk
    have hnests := kinds_feed (read_run (m := initial) trivial hk).1 hfeed
    cases t <;> simp only [Nests] at hnests <;> simp [depth, hcount, hnests]

/-- The outermost bracket is a brace. -/
def Rooted (m : JsonMachine) : Prop :=
  ∀ k, m.kinds.getLast? = some k → k = true

theorem result?_of_begun (hm : m.Begun) (hkinds : m.kinds = []) : ∃ v, m.result? = some v := by
  have hstack : m.stack = [] := List.map_eq_nil_iff.mp hkinds
  obtain ⟨v, hv⟩ := hm hstack
  obtain ⟨expect, stack⟩ := m
  obtain rfl : stack = [] := hstack
  obtain rfl : expect = .after v := hv
  exact ⟨v, rfl⟩

/-- A machine that goes on has something open. -/
theorem kinds_ne_nil (hm : m.Begun) (h : m.feed t = some n) : m.kinds ≠ [] := by
  intro hkinds
  obtain ⟨v, hv⟩ := result?_of_begun hm hkinds
  have hrefuse := run_cons_of_result? hv t []
  rw [run_cons h] at hrefuse
  exact absurd hrefuse (by simp [run])

theorem Rooted.feed (hroot : m.Rooted) (hm : m.Fresh) (hbegun : m.Begun) (h : m.feed t = some n) :
    n.Rooted := by
  obtain ⟨k, ks, hks⟩ := List.exists_cons_of_ne_nil (kinds_ne_nil hbegun h)
  have hnests := kinds_feed hm h
  intro b hb
  refine hroot b ?_
  rw [hks] at hnests ⊢
  cases t <;> simp only [Nests] at hnests <;> simp_all [List.getLast?_cons]

/-- After a first brace, the outermost bracket is a brace. -/
theorem rooted_run (h : initial.run (.openBrace :: ts) = some m) : m.Rooted ∧ m.Begun := by
  induction ts using List.reverseRecOn generalizing m with
  | nil =>
    obtain rfl : ⟨.firstName, [.obj []]⟩ = m := Option.some.inj h
    refine ⟨fun k hk => (Option.some.inj hk).symm, begun_of_stack_ne_nil (List.cons_ne_nil _ _)⟩
  | append_singleton ts t ih =>
    rw [← List.cons_append] at h
    obtain ⟨k, hk, hfeed⟩ := run_concat_eq_some h
    obtain ⟨hroot, hbegun⟩ := ih hk
    exact ⟨hroot.feed (read_run (m := initial) trivial hk).1 hbegun hfeed, hbegun.feed hfeed⟩

/-- As long as more tokens are accepted, the first brace is open. -/
theorem depth_pos {out us : List JsonToken} (hout : out.reverse = .openBrace :: ts)
    (h : initial.run (out.reverse ++ t :: us) = some n) : 0 < depth out := by
  rw [run_append] at h
  obtain ⟨m, hm, hrest⟩ := Option.bind_eq_some_iff.mp h
  obtain ⟨hroot, hbegun⟩ := rooted_run (hout ▸ hm)
  obtain ⟨u, hfeed, -⟩ := run_cons_eq_some hrest
  have hne := kinds_ne_nil hbegun hfeed
  have hlast := List.getLast?_eq_some_getLast hne
  rw [depth_eq_count hm, List.count_pos_iff]
  exact hroot _ hlast ▸ List.getLast_mem hne

end JsonMachine

/-- The tokens of a text that is a value are the tokens of the value. -/
theorem Json.tokens?_of_parse? {text : String} {v : Json} (h : parse? text = some v) :
    tokens? text.toList = some v.toTokens := by
  rw [parse?] at h
  cases htokens : tokens? text.toList with
  | none =>
    rw [htokens] at h
    exact absurd h (by simp)
  | some ts =>
    rw [htokens] at h
    rw [JsonMachine.eq_toTokens h]

namespace Json

/-! ## Tokens of a value -/

/-- The name of a member is one of its tokens. -/
theorem str_mem_memberTokens {k : Option String} {v : Json} :
    ∀ {members : List (Option String × Json)}, (k, v) ∈ members →
      .str k ∈ memberTokens members
  | [(k', v')], h => by
    obtain ⟨rfl, rfl⟩ := Prod.mk.inj (List.mem_singleton.mp h)
    exact List.mem_cons_self
  | (k', v') :: m :: ms, h => by
    rw [memberTokens]
    rcases List.mem_cons.mp h with heq | hrest
    · obtain ⟨rfl, rfl⟩ := Prod.mk.inj heq
      exact List.mem_cons_self
    · exact List.mem_cons_of_mem _ (List.mem_cons_of_mem _
        (List.mem_append_right _ (List.mem_cons_of_mem _ (str_mem_memberTokens hrest))))

/-- Items without braces make an array without braces. -/
theorem openBrace_notMem_itemTokens :
    ∀ {items : List Json}, (∀ v ∈ items, .openBrace ∉ v.toTokens) → .openBrace ∉ itemTokens items
  | [], _ => List.not_mem_nil
  | [v], h => h v List.mem_cons_self
  | v :: w :: vs, h => by
    obtain ⟨hv, hvs⟩ := List.forall_mem_cons.mp h
    have hrest := openBrace_notMem_itemTokens hvs
    simp only [itemTokens, List.mem_append, List.mem_cons, reduceCtorEq, false_or, not_or]
    exact ⟨hv, hrest⟩

end Json

end SinkAudit

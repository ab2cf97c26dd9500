import SinkAudit.Json.Reader
import SinkAudit.Proofs.Json.Lexing

/-!
# Reading what was written

A value is written as a sequence of tokens (`Json.toTokens`) in some layout.  The proof that a value
is read back goes through that sequence and has two halves, neither of which knows of the other.

* `JsonMachine.run_toTokens`: the machine puts the tokens of a value together to the value.
* `Spells`: the tokens that the lexer finds in a text.  Texts are put together behind a mark
  (`Spells.mark`) or a blank (`Spells.gap`), whatever the layout is.
* `Json.spells_compact`: the tokens of a value are found in its text without blanks.
* `Json.parse?_compact`: so reading undoes writing, as long as every number is a natural one.

Every half is one induction over the value, with the lists of items and members carried along.
-/

namespace SinkAudit

namespace Json

mutual

/-- The tokens that a value is written with. -/
def toTokens : Json → List JsonToken
  | null => [.null]
  | bool b => [.bool b]
  | num n => [.num n]
  | str t => [.str t]
  | arr items => .openBracket :: (itemTokens items ++ [.closeBracket])
  | obj members => .openBrace :: (memberTokens members ++ [.closeBrace])

/-- The tokens of values with commas between them. -/
def itemTokens : List Json → List JsonToken
  | [] => []
  | [v] => v.toTokens
  | v :: w :: vs => v.toTokens ++ .comma :: itemTokens (w :: vs)

/-- The tokens of members with commas between them. -/
def memberTokens : List (Option String × Json) → List JsonToken
  | [] => []
  | [(k, v)] => .str k :: .colon :: v.toTokens
  | (k, v) :: m :: ms => .str k :: .colon :: (v.toTokens ++ .comma :: memberTokens (m :: ms))

end

mutual

/-- Whether every number in a value is a natural one. -/
def isPlain : Json → Bool
  | num (.nat _) => true
  | num _ => false
  | arr items => allPlain items
  | obj members => membersPlain members
  | _ => true

/-- The same for a list of values. -/
def allPlain : List Json → Bool
  | [] => true
  | v :: vs => v.isPlain && allPlain vs

/-- The same for a list of members. -/
def membersPlain : List (Option String × Json) → Bool
  | [] => true
  | (_, v) :: ms => v.isPlain && membersPlain ms

end

end Json

/-! ## Putting tokens together -/

namespace JsonMachine

theorem run_cons {m n : JsonMachine} {t : JsonToken} (h : m.feed t = some n)
    (ts : List JsonToken) : m.run (t :: ts) = n.run ts := by
  rw [run, h]

/-- Where an array has just been opened, the tokens of a value are read like any value. -/
theorem run_firstItem (v : Json) (up : List JsonFrame) (ts : List JsonToken) :
    run ⟨.firstItem, .arr [] :: up⟩ (v.toTokens ++ ts) =
      run ⟨.value, .arr [] :: up⟩ (v.toTokens ++ ts) := by
  cases v <;> simp only [Json.toTokens, List.cons_append, List.nil_append] <;> rfl

/-- Where an object has just been opened, its first name is read like any name. -/
theorem run_firstName (k : Option String) (up : List JsonFrame) (ts : List JsonToken) :
    run ⟨.firstName, .obj [] :: up⟩ (.str k :: ts) = run ⟨.name, .obj [] :: up⟩ (.str k :: ts) :=
  rfl

theorem run_name (k : Option String) (ms : List (Option String × Json)) (up : List JsonFrame)
    (ts : List JsonToken) :
    run ⟨.name, .obj ms :: up⟩ (.str k :: .colon :: ts) = run ⟨.value, .member ms k :: up⟩ ts :=
  rfl

mutual

/-- The machine puts the tokens of a value together to the value. -/
theorem run_toTokens : ∀ (v : Json) (up : List JsonFrame) (ts : List JsonToken),
    run ⟨.value, up⟩ (v.toTokens ++ ts) = run ⟨.after v, up⟩ ts
  | .null, _, _ => rfl
  | .bool _, _, _ => rfl
  | .num _, _, _ => rfl
  | .str _, _, _ => rfl
  | .arr items, up, ts => by
    have hopen : feed ⟨.value, up⟩ .openBracket = some ⟨.firstItem, .arr [] :: up⟩ := rfl
    have hitems := run_itemTokens items [] up ts
    rw [List.reverse_nil, List.nil_append] at hitems
    rw [Json.toTokens, List.cons_append, run_cons hopen, List.append_assoc,
      List.singleton_append]
    match items with
    | [] => rfl
    | [v] =>
      rw [← hitems (List.cons_ne_nil _ _), Json.itemTokens, run_firstItem]
    | v :: w :: vs =>
      rw [← hitems (List.cons_ne_nil _ _), Json.itemTokens, List.append_assoc, run_firstItem]
  | .obj members, up, ts => by
    have hopen : feed ⟨.value, up⟩ .openBrace = some ⟨.firstName, .obj [] :: up⟩ := rfl
    have hmembers := run_memberTokens members [] up ts
    rw [List.reverse_nil, List.nil_append] at hmembers
    rw [Json.toTokens, List.cons_append, run_cons hopen, List.append_assoc,
      List.singleton_append]
    match members with
    | [] => rfl
    | [(k, v)] =>
      rw [← hmembers (List.cons_ne_nil _ _), Json.memberTokens, List.cons_append, run_firstName]
    | (k, v) :: m :: ms =>
      rw [← hmembers (List.cons_ne_nil _ _), Json.memberTokens, List.cons_append, run_firstName]

/-- The machine puts the rest of an array together; `done` are the items before, latest first. -/
theorem run_itemTokens : ∀ (items done : List Json) (up : List JsonFrame) (ts : List JsonToken),
    items ≠ [] →
    run ⟨.value, .arr done :: up⟩ (Json.itemTokens items ++ .closeBracket :: ts) =
      run ⟨.after (.arr (done.reverse ++ items)), up⟩ ts
  | [], _, _, _, h => absurd rfl h
  | [v], done, up, ts, _ => by
    have hclose : feed ⟨.after v, .arr done :: up⟩ .closeBracket =
        some ⟨.after (.arr (v :: done).reverse), up⟩ := rfl
    rw [Json.itemTokens, run_toTokens v (.arr done :: up), run_cons hclose, List.reverse_cons]
  | v :: w :: vs, done, up, ts, _ => by
    have hcomma : feed ⟨.after v, .arr done :: up⟩ .comma =
        some ⟨.value, .arr (v :: done) :: up⟩ := rfl
    rw [Json.itemTokens, List.append_assoc, run_toTokens v (.arr done :: up), List.cons_append,
      run_cons hcomma, run_itemTokens (w :: vs) (v :: done) up ts (List.cons_ne_nil _ _),
      List.reverse_cons, List.append_assoc, List.singleton_append]

/-- The machine puts the rest of an object together; `done` are the members before, latest
first. -/
theorem run_memberTokens : ∀ (members done : List (Option String × Json)) (up : List JsonFrame)
    (ts : List JsonToken), members ≠ [] →
    run ⟨.name, .obj done :: up⟩ (Json.memberTokens members ++ .closeBrace :: ts) =
      run ⟨.after (.obj (done.reverse ++ members)), up⟩ ts
  | [], _, _, _, h => absurd rfl h
  | [(k, v)], done, up, ts, _ => by
    have hclose : feed ⟨.after v, .member done k :: up⟩ .closeBrace =
        some ⟨.after (.obj ((k, v) :: done).reverse), up⟩ := rfl
    rw [Json.memberTokens, List.cons_append, List.cons_append, run_name,
      run_toTokens v (.member done k :: up), run_cons hclose, List.reverse_cons]
  | (k, v) :: m :: ms, done, up, ts, _ => by
    have hcomma : feed ⟨.after v, .member done k :: up⟩ .comma =
        some ⟨.name, .obj ((k, v) :: done) :: up⟩ := rfl
    rw [Json.memberTokens, List.cons_append, List.cons_append, run_name, List.append_assoc,
      run_toTokens v (.member done k :: up), List.cons_append, run_cons hcomma,
      run_memberTokens (m :: ms) ((k, v) :: done) up ts (List.cons_ne_nil _ _),
      List.reverse_cons, List.append_assoc, List.singleton_append]

end

end JsonMachine

/-! ## Finding the tokens -/

open Lexer (Holds isGap isSeparator start)

/-- An idle lexer finds exactly the given tokens in a text, and what separates tokens may follow. -/
def Spells (s : List Char) (ts : List JsonToken) : Prop :=
  ∀ out, ∃ x, Lexer.run ⟨.idle, out⟩ s = some x ∧ Holds x (ts.reverse ++ out)

namespace Spells

variable {s r : List Char} {ts us : List JsonToken} {c : Char}

theorem nil : Spells [] [] := by
  intro out
  exact ⟨⟨.idle, out⟩, rfl, Lexer.holds_idle out⟩

/-- A bracket, brace, comma or colon is a token by itself, and ends what stands before it. -/
theorem mark {t : JsonToken} (hs : Spells s ts) (hc : isSeparator c = true)
    (ht : ∀ out, start out c = some ⟨.idle, t :: out⟩) (hr : Spells r us) :
    Spells (s ++ c :: r) (ts ++ t :: us) := by
  intro out
  obtain ⟨x, hx, hholds⟩ := hs out
  obtain ⟨y, hy, hrest⟩ := hr (t :: (ts.reverse ++ out))
  refine ⟨y, ?_, ?_⟩
  · rw [Lexer.run_append, hx, Option.bind_some, Lexer.run, hholds.feed_eq c hc, ht]
    exact hy
  · rw [List.reverse_append, List.reverse_cons, List.append_assoc, List.append_assoc]
    exact hrest

/-- A blank is no token, and ends what stands before it. -/
theorem gap (hs : Spells s ts) (hc : isGap c = true) (hr : Spells r us) :
    Spells (s ++ c :: r) (ts ++ us) := by
  have hcases : c = ' ' ∨ c = '\t' ∨ c = '\n' ∨ c = '\r' := by
    simpa only [isGap, Bool.or_eq_true, beq_iff_eq, or_assoc] using hc
  have hsep : isSeparator c = true := by
    rcases hcases with rfl | rfl | rfl | rfl <;> rfl
  intro out
  obtain ⟨x, hx, hholds⟩ := hs out
  obtain ⟨y, hy, hrest⟩ := hr (ts.reverse ++ out)
  have hfeed : x.feed c = some ⟨.idle, ts.reverse ++ out⟩ := by
    rw [hholds.feed_eq c hsep]
    rcases hcases with rfl | rfl | rfl | rfl <;> rfl
  refine ⟨y, ?_, ?_⟩
  · rw [Lexer.run_append, hx, Option.bind_some, Lexer.run, hfeed]
    exact hy
  · rw [List.reverse_append, List.append_assoc]
    exact hrest

/-- A quoted text is one token, and ends by itself. -/
theorem quoteText (t : Option String) (hr : Spells r us) :
    Spells ((Json.quoteText t).toList ++ r) (.str t :: us) := by
  intro out
  obtain ⟨x, hx, hholds⟩ := hr (.str t :: out)
  refine ⟨x, ?_, ?_⟩
  · rw [Lexer.run_quoteText, hx]
  · rw [List.reverse_cons, List.append_assoc]
    exact hholds

end Spells

namespace Json

/-- A text with the tokens of a value is read as the value. -/
theorem parse?_of_spells {text : String} {v : Json} (h : Spells text.toList v.toTokens) :
    parse? text = some v := by
  obtain ⟨x, hx, hholds⟩ := h []
  have htokens : tokens? text.toList = some v.toTokens := by
    rw [tokens?, Lexer.initial, hx, Option.bind_some, hholds.settle_eq, Option.map_some,
      List.append_nil, List.reverse_reverse]
  have hrun := JsonMachine.run_toTokens v [] []
  rw [List.append_nil] at hrun
  rw [parse?, htokens]
  simp only [JsonMachine.initial, hrun]
  rfl

mutual

/-- The text of a value has the tokens of the value. -/
theorem spells_compact : ∀ v : Json, v.isPlain = true → Spells v.compact.toList v.toTokens
  | .null, _ => by
    intro out
    refine ⟨⟨.word ['l', 'l', 'u', 'n'], out⟩, ?_, Lexer.holds_word out rfl⟩
    rw [show (compact .null).toList = ['n', 'u', 'l', 'l'] by simp [compact]]
    rfl
  | .bool true, _ => by
    intro out
    refine ⟨⟨.word ['e', 'u', 'r', 't'], out⟩, ?_, Lexer.holds_word out rfl⟩
    rw [show (compact (.bool true)).toList = ['t', 'r', 'u', 'e'] by simp [compact]]
    rfl
  | .bool false, _ => by
    intro out
    refine ⟨⟨.word ['e', 's', 'l', 'a', 'f'], out⟩, ?_, Lexer.holds_word out rfl⟩
    rw [show (compact (.bool false)).toList = ['f', 'a', 'l', 's', 'e'] by simp [compact]]
    rfl
  | .num (.nat n), _ => by
    intro out
    rw [compact, Number.toText]
    exact Lexer.run_toString n out
  | .str t, _ => by
    have h := Spells.quoteText t Spells.nil
    rwa [List.append_nil] at h
  | .arr items, h => by
    have hitems := (spells_compactItems items h).mark (c := ']') rfl (fun _ => rfl) .nil
    have hopen := Spells.nil.mark (c := '[') rfl (fun _ => rfl) hitems
    have hchars : (arr items).compact.toList = '[' :: ((compactItems items).toList ++ [']']) := by
      simp [compact, String.toList_append]
    rw [hchars, toTokens]
    exact hopen
  | .obj members, h => by
    have hmembers := (spells_compactMembers members h).mark (c := '\x7d') rfl (fun _ => rfl) .nil
    have hopen := Spells.nil.mark (c := '\x7b') rfl (fun _ => rfl) hmembers
    have hchars : (obj members).compact.toList =
        '\x7b' :: ((compactMembers members).toList ++ ['\x7d']) := by
      simp [compact, String.toList_append]
    rw [hchars, toTokens]
    exact hopen

/-- The text of values has their tokens, with commas between them. -/
theorem spells_compactItems : ∀ items : List Json, allPlain items = true →
    Spells (compactItems items).toList (itemTokens items)
  | [], _ => Spells.nil
  | [v], h => by
    rw [allPlain, Bool.and_eq_true] at h
    rw [compactItems, itemTokens]
    exact spells_compact v h.1
  | v :: w :: vs, h => by
    rw [allPlain, Bool.and_eq_true] at h
    have hrest := spells_compactItems (w :: vs) h.2
    have hchars : (compactItems (v :: w :: vs)).toList =
        v.compact.toList ++ ',' :: (compactItems (w :: vs)).toList := by
      simp [compactItems, String.toList_append]
    rw [hchars, itemTokens]
    exact (spells_compact v h.1).mark rfl (fun _ => rfl) hrest

/-- The text of members has their tokens, with commas between them. -/
theorem spells_compactMembers : ∀ members : List (Option String × Json),
    membersPlain members = true → Spells (compactMembers members).toList (memberTokens members)
  | [], _ => Spells.nil
  | [(k, v)], h => by
    rw [membersPlain, Bool.and_eq_true] at h
    have hname := Spells.quoteText k (Spells.nil.mark (c := ':') rfl (fun _ => rfl)
      (spells_compact v h.1))
    have hchars : (compactMembers [(k, v)]).toList =
        (quoteText k).toList ++ ':' :: v.compact.toList := by
      simp [compactMembers, String.toList_append]
    rw [hchars, memberTokens]
    exact hname
  | (k, v) :: m :: ms, h => by
    rw [membersPlain, Bool.and_eq_true] at h
    have hrest := (spells_compact v h.1).mark (c := ',') rfl (fun _ => rfl)
      (spells_compactMembers (m :: ms) h.2)
    have hname := Spells.quoteText k (Spells.nil.mark (c := ':') rfl (fun _ => rfl) hrest)
    have hchars : (compactMembers ((k, v) :: m :: ms)).toList = (quoteText k).toList ++
        ':' :: (v.compact.toList ++ ',' :: (compactMembers (m :: ms)).toList) := by
      simp [compactMembers, String.toList_append]
    rw [hchars, memberTokens]
    exact hname

end

/-- Reading undoes writing. -/
theorem parse?_compact (v : Json) (h : v.isPlain = true) : parse? v.compact = some v :=
  parse?_of_spells (spells_compact v h)

/-! ## One row -/

theorem newline_notMem_escapeChar (c : Char) : '\n' ∉ escapeChar c := by
  unfold escapeChar
  split_ifs with hq hb h1 h2 h3 h4 h5 hc
  · decide
  · decide
  · decide
  · decide
  · decide
  · decide
  · decide
  · have hdigit : ∀ k : Fin 16, Digest.hexDigit k.val ≠ '\n' := by decide
    have hd1 := hdigit ⟨c.toNat / 16, by omega⟩
    have hd2 := hdigit ⟨c.toNat % 16, by omega⟩
    simp [hd1.symm, hd2.symm]
  · intro hm
    rw [List.mem_singleton] at hm
    exact h3 (beq_iff_eq.mpr hm.symm)

theorem newline_notMem_quoteText (t : Option String) : '\n' ∉ (quoteText t).toList := by
  cases t with
  | none => simp [quoteText]
  | some s =>
    simp only [quoteText, quote, String.toList_append, String.toList_ofList, List.mem_append,
      List.mem_flatMap, not_or, not_exists, not_and]
    exact ⟨⟨by decide, fun c _ => newline_notMem_escapeChar c⟩, by decide⟩

mutual

/-- A value without blanks takes one row. -/
theorem newline_notMem_compact : ∀ v : Json, v.isPlain = true → '\n' ∉ v.compact.toList
  | .null, _ => by simp [compact]
  | .bool true, _ => by simp [compact]
  | .bool false, _ => by simp [compact]
  | .num (.nat n), _ => by
    intro hm
    exact absurd (Decimal.isDigit_of_mem_toString hm) (by decide)
  | .str t, _ => newline_notMem_quoteText t
  | .arr items, h => by
    have hitems := newline_notMem_compactItems items h
    simp [compact, String.toList_append, hitems]
  | .obj members, h => by
    have hmembers := newline_notMem_compactMembers members h
    simp [compact, String.toList_append, hmembers]

theorem newline_notMem_compactItems :
    ∀ items : List Json, allPlain items = true → '\n' ∉ (compactItems items).toList
  | [], _ => by simp [compactItems]
  | [v], h => by
    rw [allPlain, Bool.and_eq_true] at h
    exact newline_notMem_compact v h.1
  | v :: w :: vs, h => by
    rw [allPlain, Bool.and_eq_true] at h
    have hv := newline_notMem_compact v h.1
    have hvs := newline_notMem_compactItems (w :: vs) h.2
    simp [compactItems, String.toList_append, hv, hvs]

theorem newline_notMem_compactMembers : ∀ members : List (Option String × Json),
    membersPlain members = true → '\n' ∉ (compactMembers members).toList
  | [], _ => by simp [compactMembers]
  | [(k, v)], h => by
    rw [membersPlain, Bool.and_eq_true] at h
    have hk := newline_notMem_quoteText k
    have hv := newline_notMem_compact v h.1
    simp [compactMembers, String.toList_append, hk, hv]
  | (k, v) :: m :: ms, h => by
    rw [membersPlain, Bool.and_eq_true] at h
    have hk := newline_notMem_quoteText k
    have hv := newline_notMem_compact v h.1
    have hms := newline_notMem_compactMembers (m :: ms) h.2
    simp [compactMembers, String.toList_append, hk, hv, hms]

end

/-- A blank at the end of a text does not change its value. -/
theorem parse?_append_gap (s : List Char) {c : Char} (hc : Lexer.isGap c = true) :
    parse? (String.ofList (s ++ [c])) = parse? (String.ofList s) := by
  rw [parse?, parse?, String.toList_ofList, String.toList_ofList, Lexer.tokens?_append_gap s hc]

end Json

end SinkAudit

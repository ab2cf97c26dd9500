import Mathlib.Data.List.Basic
import SinkAudit.Proofs.Text.Encoding
import SinkAudit.Proofs.Verdict.Extraction

/-!
# The shortest object of a reply

The object in a reply is looked for from the first opening brace on, byte by byte (`search`).  The
search counts braces and looks at nothing else but quotes and backslashes.  These are bytes below 128,
so it makes no difference to go by characters (`search_encoded`), and the object that is cut out begins
and ends at the border of a character.

What is found can be said without the search.  Taking the string literals out of a text leaves the
braces that count (`unquoted`), and the object is the shortest piece from the first brace on that has as
many closing braces as opening ones.  The counter of open braces is positive until then, so it never
goes below zero.

* `unquoted`, `Closes`: pieces that close the brace with which they begin.
* `search`: the search through bytes, with a counter that may not go below zero.
* `Even`, `even_cons`: one step of the search, and `meets_search`: the whole of it.
* `extractObject?_shortest`: the object of a reply.
-/

namespace SinkAudit.Reply

open Text (encoded slice?)

/-! ## Pieces that close their brace -/

/-- The bytes outside of string literals, from inside of one or from outside.  Byte 34 is the quote;
inside of a literal byte 92, the backslash, hides the byte behind it. -/
def unquoted : Bool → List UInt8 → List UInt8
  | _, [] => []
  | true, 92 :: _ :: r => unquoted true r
  | true, b :: r => unquoted (b != 34) r
  | false, b :: r => if b = 34 then unquoted true r else b :: unquoted false r

/-- A piece with as many closing braces as opening ones outside of its string literals.  The bytes of
the braces are 123 and 125. -/
def Closes (p : List UInt8) : Prop :=
  p ≠ [] ∧ (unquoted false p).count 123 = (unquoted false p).count 125

/-! ## The search through bytes -/

/-- The state after one more byte, if the counter of open braces can follow: it does not go below
zero. -/
def BraceState.follow? (s : BraceState) (b : UInt8) : Option BraceState :=
  if s.escaped then some { s with escaped := false }
  else if b = 92 ∧ s.inString then some { s with escaped := true }
  else if b = 34 then some { s with inString := !s.inString }
  else if s.inString then some s
  else if b = 123 then some { s with depth := s.depth + 1 }
  else if b = 125 then if s.depth = 0 then none else some { s with depth := s.depth - 1 }
  else some s

/-- How a search for the end of an object ends. -/
inductive Closing where
  /-- A brace is closed, but none is open. -/
  | below
  /-- There are no more bytes. -/
  | missing
  /-- The last open brace is closed, and this is the byte behind it. -/
  | found (stop : Nat)
  deriving DecidableEq

/-- The search for the end of an object; `i` is the place of the next byte. -/
def search (s : BraceState) (i : Nat) : List UInt8 → Closing
  | [] => .missing
  | b :: r =>
    match s.follow? b with
    | none => .below
    | some t => if s.closes t then .found (i + 1) else search t (i + 1) r

variable {s t : BraceState} {b : UInt8}

/-! ## One step -/

/-- What one byte can do to the state of a search. -/
inductive Follows : BraceState → UInt8 → BraceState → Prop
  | escaped {d q b} : Follows ⟨d, q, true⟩ b ⟨d, q, false⟩
  | backslash {d} : Follows ⟨d, true, false⟩ 92 ⟨d, true, true⟩
  | quote {d q} : Follows ⟨d, q, false⟩ 34 ⟨d, !q, false⟩
  | inside {d b} (hslash : b ≠ 92) (hquote : b ≠ 34) : Follows ⟨d, true, false⟩ b ⟨d, true, false⟩
  | opening {d} : Follows ⟨d, false, false⟩ 123 ⟨d + 1, false, false⟩
  | closing {d} : Follows ⟨d + 1, false, false⟩ 125 ⟨d, false, false⟩
  | other {d b} (hquote : b ≠ 34) (hopen : b ≠ 123) (hclose : b ≠ 125) :
      Follows ⟨d, false, false⟩ b ⟨d, false, false⟩

theorem follows_of_follow? (h : s.follow? b = some t) : Follows s b t := by
  obtain ⟨d, q, e⟩ := s
  cases e with
  | true =>
    obtain rfl := Option.some.inj h
    exact .escaped
  | false =>
    cases q with
    | true =>
      by_cases hslash : b = 92
      · subst hslash
        obtain rfl := Option.some.inj h
        exact .backslash
      by_cases hquote : b = 34
      · subst hquote
        obtain rfl := Option.some.inj h
        exact .quote
      have hkept : BraceState.follow? ⟨d, true, false⟩ b = some ⟨d, true, false⟩ := by
        simp [BraceState.follow?, hslash, hquote]
      obtain rfl := Option.some.inj (hkept.symm.trans h)
      exact .inside hslash hquote
    | false =>
      by_cases hquote : b = 34
      · subst hquote
        obtain rfl := Option.some.inj h
        exact .quote
      by_cases hopen : b = 123
      · subst hopen
        obtain rfl := Option.some.inj h
        exact .opening
      by_cases hclose : b = 125
      · subst hclose
        cases d with
        | zero => exact absurd h (by simp [BraceState.follow?])
        | succ d =>
          obtain rfl := Option.some.inj h
          exact .closing
      have hkept : BraceState.follow? ⟨d, false, false⟩ b = some ⟨d, false, false⟩ := by
        simp [BraceState.follow?, hquote, hopen, hclose]
      obtain rfl := Option.some.inj (hkept.symm.trans h)
      exact .other hquote hopen hclose

/-- An open brace lets the counter follow every byte. -/
theorem exists_follow? (hdepth : 0 < s.depth) (b : UInt8) : ∃ t, s.follow? b = some t := by
  have hne : ¬s.depth = 0 := Nat.ne_of_gt hdepth
  unfold BraceState.follow?
  rw [if_neg hne]
  split_ifs <;> exact ⟨_, rfl⟩

/-- The bytes outside of string literals for a search that has come to a state. -/
def BraceState.bare (s : BraceState) (p : List UInt8) : List UInt8 :=
  unquoted s.inString (if s.escaped then p.drop 1 else p)

/-- After these bytes as many braces are closed as were open and have been opened. -/
def Even (s : BraceState) (p : List UInt8) : Prop :=
  s.depth + (s.bare p).count 123 = (s.bare p).count 125

theorem even_nil : Even s [] ↔ s.depth = 0 := by
  have hnil : s.bare [] = [] := by
    rw [BraceState.bare, List.drop_nil, ite_self, unquoted]
  rw [Even, hnil, List.count_nil, List.count_nil, Nat.add_zero]

theorem unquoted_inside (h : b ≠ 92) (p : List UInt8) :
    unquoted true (b :: p) = unquoted (b != 34) p := by
  rw [unquoted]
  exact fun _ _ hb _ => h hb

theorem unquoted_outside (h : b ≠ 34) (p : List UInt8) :
    unquoted false (b :: p) = b :: unquoted false p := by
  rw [unquoted, if_neg h]

/-- One step of the search takes the brace that it passes from the bytes to the counter. -/
theorem even_cons (h : Follows s b t) (p : List UInt8) : Even s (b :: p) ↔ Even t p := by
  cases h with
  | escaped => exact Iff.rfl
  | backslash => cases p <;> exact Iff.rfl
  | @quote d q =>
    have hbare : BraceState.bare ⟨d, q, false⟩ (34 :: p) = BraceState.bare ⟨d, !q, false⟩ p := by
      cases q with
      | true => exact unquoted_inside (by decide) p
      | false =>
        show unquoted false (34 :: p) = unquoted true p
        rw [unquoted, if_pos rfl]
    rw [Even, Even, hbare]
  | @inside d b hslash hquote =>
    have hbare : BraceState.bare ⟨d, true, false⟩ (b :: p) = BraceState.bare ⟨d, true, false⟩ p := by
      show unquoted true (b :: p) = unquoted true p
      rw [unquoted_inside hslash, bne_iff_ne.mpr hquote]
    rw [Even, Even, hbare]
  | @opening d =>
    have hbare : BraceState.bare ⟨d, false, false⟩ (123 :: p) =
        123 :: BraceState.bare ⟨d + 1, false, false⟩ p := unquoted_outside (by decide) p
    rw [Even, Even, hbare, List.count_cons_self, List.count_cons_of_ne (by decide)]
    dsimp only
    omega
  | @closing d =>
    have hbare : BraceState.bare ⟨d + 1, false, false⟩ (125 :: p) =
        125 :: BraceState.bare ⟨d, false, false⟩ p := unquoted_outside (by decide) p
    rw [Even, Even, hbare, List.count_cons_self, List.count_cons_of_ne (by decide)]
    dsimp only
    omega
  | @other d b hquote hopen hclose =>
    have hbare : BraceState.bare ⟨d, false, false⟩ (b :: p) =
        b :: BraceState.bare ⟨d, false, false⟩ p := unquoted_outside hquote p
    rw [Even, Even, hbare, List.count_cons_of_ne hopen, List.count_cons_of_ne hclose]

theorem le_depth (h : Follows s b t) : s.depth ≤ t.depth + 1 := by
  cases h <;> dsimp only <;> omega

/-- Only a closing brace ends the search. -/
theorem eq_of_closes (h : Follows s b t) (hclose : s.closes t = true) : b = 125 := by
  obtain ⟨hone, hzero⟩ := Bool.and_eq_true_iff.mp hclose
  have hone' : s.depth = 1 := eq_of_beq hone
  have hzero' : t.depth = 0 := eq_of_beq hzero
  cases h with
  | closing => rfl
  | opening => exact absurd hzero' (Nat.succ_ne_zero _)
  | _ => exact absurd (hzero'.symm.trans hone') (by decide)

theorem closes_eq_false (hdepth : 0 < t.depth) : s.closes t = false := by
  rw [BraceState.closes, beq_false_of_ne (Nat.ne_of_gt hdepth), Bool.and_false]

/-- While the search goes on, a brace is open. -/
theorem depth_pos_of_not_closes (h : Follows s b t) (hdepth : 0 < s.depth) (hclose : s.closes t = false) :
    0 < t.depth := by
  have hle := le_depth h
  refine Nat.pos_of_ne_zero fun hzero => ?_
  have hone : s.depth = 1 := by omega
  rw [BraceState.closes, hone, hzero] at hclose
  exact absurd hclose (by decide)

/-! ## The whole search -/

/-- What the end of a search says of the bytes that it went through. -/
def Meets (s : BraceState) (i : Nat) (r : List UInt8) : Closing → Prop
  | .below => False
  | .missing => ∀ p, p <+: r → ¬Even s p
  | .found stop => ∃ p, p <+: r ∧ stop = i + p.length ∧ p.getLast? = some 125 ∧ Even s p ∧
      ∀ q, q <+: r → Even s q → p <+: q

/-- With a brace open, the search finds the shortest piece after which none is, and it goes on to the end
only if there is no such piece. -/
theorem meets_search (hdepth : 0 < s.depth) (i : Nat) (r : List UInt8) :
    Meets s i r (search s i r) := by
  have hnil : ∀ {s : BraceState}, 0 < s.depth → ¬Even s [] :=
    fun hpos heven => absurd (even_nil.mp heven) (Nat.ne_of_gt hpos)
  induction r generalizing s i with
  | nil =>
    intro p hp
    rw [List.prefix_nil.mp hp]
    exact hnil hdepth
  | cons b r ih =>
    obtain ⟨t, ht⟩ := exists_follow? hdepth b
    have hstep := follows_of_follow? ht
    -- A piece that is even has the first byte in it, and the rest of it is even for the next state.
    have hsplit : ∀ q, q <+: b :: r → Even s q → ∃ q', q = b :: q' ∧ q' <+: r ∧ Even t q' := by
      intro q hq heven
      cases q with
      | nil => exact absurd heven (hnil hdepth)
      | cons c q =>
        obtain ⟨rfl, hq'⟩ := List.cons_prefix_cons.mp hq
        exact ⟨q, rfl, hq', (even_cons hstep q).mp heven⟩
    simp only [search, ht]
    cases hclose : s.closes t with
    | true =>
      have hzero : t.depth = 0 := eq_of_beq (Bool.and_eq_true_iff.mp hclose).2
      refine ⟨[b], ⟨r, rfl⟩, rfl, ?_, (even_cons hstep []).mpr (even_nil.mpr hzero), fun q hq heven => ?_⟩
      · rw [eq_of_closes hstep hclose, List.getLast?_singleton]
      · obtain ⟨q', rfl, -, -⟩ := hsplit q hq heven
        exact ⟨q', rfl⟩
    | false =>
      have hrest := ih (depth_pos_of_not_closes hstep hdepth hclose) (i + 1)
      rw [if_neg Bool.false_ne_true]
      generalize search t (i + 1) r = result at hrest
      cases result with
      | below => exact hrest
      | missing =>
        intro q hq heven
        obtain ⟨q', -, hq', heven'⟩ := hsplit q hq heven
        exact hrest q' hq' heven'
      | found stop =>
        obtain ⟨p, hp, hstop, hlast, heven, hshortest⟩ := hrest
        refine ⟨b :: p, (List.prefix_cons_inj b).mpr hp, ?_, ?_, (even_cons hstep p).mpr heven,
          fun q hq heven' => ?_⟩
        · rw [hstop, List.length_cons]
          omega
        · have hne : p ≠ [] := by
            rintro rfl
            exact absurd hlast (by simp)
          rw [List.getLast?_cons_of_ne_nil hne, hlast]
        · obtain ⟨q', rfl, hq', heven''⟩ := hsplit q hq heven'
          exact (List.prefix_cons_inj b).mpr (hshortest q' hq' heven'')

/-! ## Bytes and characters -/

/-- The characters that the search goes by. -/
def IsMark (c : Char) : Prop :=
  c = '\\' ∨ c = '"' ∨ c = '\x7b' ∨ c = '\x7d'

/-- A mark does to a search through characters what its byte does to one through bytes. -/
theorem follow?_mark (hdepth : 0 < s.depth) {c : Char} (hc : IsMark c) :
    s.follow? (UInt8.ofNat c.toNat) = some (s.next c) := by
  obtain ⟨d, q, e⟩ := s
  obtain ⟨d, rfl⟩ : ∃ k, d = k + 1 := ⟨d - 1, (Nat.sub_add_cancel hdepth).symm⟩
  rcases hc with rfl | rfl | rfl | rfl <;> cases q <;> cases e <;> rfl

/-- Other characters end an escape and do nothing else. -/
theorem next_of_not_isMark {c : Char} (hc : ¬IsMark c) : s.next c = { s with escaped := false } := by
  simp only [IsMark, not_or] at hc
  obtain ⟨hslash, hquote, hopen, hclose⟩ := hc
  obtain ⟨d, q, e⟩ := s
  cases e <;> simp [BraceState.next, hslash, hquote, hopen, hclose]

/-- Neither do their bytes. -/
theorem follow?_of_not_isMark {c : Char} (hc : ¬IsMark c) (hb : b ∈ String.utf8EncodeChar c) :
    s.follow? b = some { s with escaped := false } := by
  simp only [IsMark, not_or] at hc
  have hne {d : Char} (hd : d.toNat < 128) (hcd : c ≠ d) : b ≠ UInt8.ofNat d.toNat := by
    rintro rfl
    exact Text.notMem_utf8EncodeChar hd hcd hb
  have hslash : b ≠ 92 := hne (by decide) hc.1
  have hquote : b ≠ 34 := hne (by decide) hc.2.1
  have hopen : b ≠ 123 := hne (by decide) hc.2.2.1
  have hclose : b ≠ 125 := hne (by decide) hc.2.2.2
  obtain ⟨d, q, e⟩ := s
  cases e <;> simp [BraceState.follow?, hslash, hquote, hopen, hclose]

theorem search_append (hdepth : 0 < s.depth) {x : List UInt8} (hne : x ≠ [])
    (hx : ∀ b ∈ x, ∀ s : BraceState, s.follow? b = some { s with escaped := false }) (i : Nat)
    (r : List UInt8) :
    search s i (x ++ r) = search { s with escaped := false } (i + x.length) r := by
  induction x generalizing s i with
  | nil => exact absurd rfl hne
  | cons b x ih =>
    obtain ⟨hb, hx⟩ := List.forall_mem_cons.mp hx
    have hopen : s.closes { s with escaped := false } = false := closes_eq_false hdepth
    rw [List.cons_append]
    simp only [search, hb, hopen, Bool.false_eq_true, if_false]
    cases x with
    | nil => rfl
    | cons c x =>
      have hrest := ih (s := { s with escaped := false }) hdepth (List.cons_ne_nil c x) hx (i + 1)
      rw [hrest, List.length_cons, List.length_cons, List.length_cons, Nat.add_right_comm,
        Nat.add_assoc]

/-- The bytes of a character do to a search what the character does. -/
theorem search_char (hdepth : 0 < s.depth) (c : Char) (i : Nat) (r : List UInt8) :
    search s i (String.utf8EncodeChar c ++ r) =
      if s.closes (s.next c) then .found (i + (String.utf8EncodeChar c).length)
      else search (s.next c) (i + (String.utf8EncodeChar c).length) r := by
  by_cases hc : IsMark c
  · have hbytes : String.utf8EncodeChar c = [UInt8.ofNat c.toNat] := by
      rcases hc with rfl | rfl | rfl | rfl <;> rfl
    rw [hbytes, List.singleton_append]
    simp only [search, follow?_mark hdepth hc, List.length_singleton]
  · have hopen : s.closes { s with escaped := false } = false := closes_eq_false hdepth
    rw [next_of_not_isMark hc, hopen, if_neg Bool.false_ne_true,
      search_append hdepth String.utf8EncodeChar_ne_nil fun b hb s => follow?_of_not_isMark hc hb]

theorem depth_next (hdepth : 0 < s.depth) {c : Char} (hclose : s.closes (s.next c) = false) :
    0 < (s.next c).depth := by
  by_cases hc : IsMark c
  · exact depth_pos_of_not_closes (follows_of_follow? (follow?_mark hdepth hc)) hdepth hclose
  · rw [next_of_not_isMark hc]
    exact hdepth

/-- The search through the bytes of a text finds what the search through its characters finds. -/
theorem search_encoded (hdepth : 0 < s.depth) (i : Nat) (x : List Char) :
    search s i (encoded x) =
      match balanced? s x with
      | none => .missing
      | some o => .found (i + (encoded o).length) := by
  induction x generalizing s i with
  | nil => rfl
  | cons c x ih =>
    rw [Text.encoded_cons, search_char hdepth]
    simp only [balanced?]
    cases hclose : s.closes (s.next c) with
    | true =>
      rw [if_pos rfl, if_pos rfl]
      simp only [Text.encoded_cons, Text.encoded_nil, List.append_nil]
    | false =>
      rw [if_neg Bool.false_ne_true, if_neg Bool.false_ne_true, ih (depth_next hdepth hclose)]
      cases balanced? (s.next c) x with
      | none => rfl
      | some o =>
        simp only [Option.map_some, Text.encoded_cons, List.length_append, Nat.add_assoc]

/-- If the search through characters finds nothing, no piece closes all braces. -/
theorem not_even_of_balanced? (hdepth : 0 < s.depth) {u : List Char} (h : balanced? s u = none) :
    ∀ p, p <+: encoded u → ¬Even s p := by
  have hmeets := meets_search hdepth 0 (encoded u)
  rw [search_encoded hdepth, h] at hmeets
  exact hmeets

/-- What the search through characters finds is the shortest piece that closes all braces. -/
theorem even_of_balanced? (hdepth : 0 < s.depth) {u o : List Char} (h : balanced? s u = some o) :
    o.getLast? = some '\x7d' ∧ Even s (encoded o) ∧
      ∀ q, q <+: encoded u → Even s q → encoded o <+: q := by
  have hmeets := meets_search hdepth 0 (encoded u)
  rw [search_encoded hdepth, h] at hmeets
  obtain ⟨p, hp, hlength, hlast, heven, hshortest⟩ := hmeets
  have hprefix : encoded o <+: encoded u := Text.encoded_of_prefix (prefix_of_balanced? h)
  have hsize : p.length = (encoded o).length := by omega
  obtain rfl : p = encoded o :=
    (List.prefix_of_prefix_length_le hp hprefix (Nat.le_of_eq hsize)).eq_of_length hsize
  refine ⟨?_, heven, hshortest⟩
  -- The last byte is a closing brace, and this byte is in no other character.
  rcases List.eq_nil_or_concat o with rfl | ⟨o, c, rfl⟩
  · exact absurd hlast (by simp)
  · rw [List.concat_eq_append] at hlast ⊢
    have hmem : 125 ∈ String.utf8EncodeChar c := by
      rw [Text.encoded_append, Text.encoded_cons, Text.encoded_nil, List.append_nil,
        List.getLast?_append_of_ne_nil _ String.utf8EncodeChar_ne_nil] at hlast
      exact List.mem_of_getLast? hlast
    have hc : c = '\x7d' := Char.toNat_inj.mp (Text.toNat_of_mem_utf8EncodeChar hmem (by decide))
    rw [List.getLast?_concat, hc]

/-! ## From the first brace on -/

/-- The first opening brace is found in bytes where it is found in characters. -/
theorem takeWhile_encoded (x : List Char) :
    (encoded x).takeWhile (· != 123) = encoded (x.takeWhile (· != '\x7b')) ∧
      (encoded x).dropWhile (· != 123) = encoded (x.dropWhile (· != '\x7b')) := by
  induction x with
  | nil => exact ⟨rfl, rfl⟩
  | cons c x ih =>
    by_cases hc : c = '\x7b'
    · subst hc
      exact ⟨rfl, rfl⟩
    · have hbytes : ∀ b ∈ String.utf8EncodeChar c, (b != 123) = true := by
        intro b hb
        refine bne_iff_ne.mpr ?_
        rintro rfl
        exact Text.notMem_utf8EncodeChar (by decide) hc hb
      have htake := List.takeWhile_cons_of_pos (p := (· != '\x7b')) (l := x) (bne_iff_ne.mpr hc)
      have hdrop := List.dropWhile_cons_of_pos (p := (· != '\x7b')) (l := x) (bne_iff_ne.mpr hc)
      rw [Text.encoded_cons, List.takeWhile_append_of_pos hbytes, List.dropWhile_append_of_pos hbytes,
        ih.1, ih.2, htake, hdrop, Text.encoded_cons]
      exact ⟨rfl, rfl⟩

/-- A piece from an opening brace on closes it if what follows the brace does. -/
theorem closes_iff {r p : List UInt8} (hp : p <+: 123 :: r) :
    Closes p ↔ ∃ q, p = 123 :: q ∧ q <+: r ∧ Even ⟨1, false, false⟩ q := by
  cases p with
  | nil =>
    refine iff_of_false (fun h => h.1 rfl) ?_
    rintro ⟨q, hq, -⟩
    exact absurd hq.symm (List.cons_ne_nil _ _)
  | cons b p =>
    obtain ⟨rfl, hp'⟩ := List.cons_prefix_cons.mp hp
    have hfirst : Even ⟨0, false, false⟩ (123 :: p) ↔ Even ⟨1, false, false⟩ p := even_cons .opening p
    have hcloses : Closes (123 :: p) ↔ Even ⟨0, false, false⟩ (123 :: p) := by
      rw [Closes, Even, Nat.zero_add]
      exact and_iff_right (List.cons_ne_nil _ _)
    rw [hcloses, hfirst]
    constructor
    · exact fun h => ⟨p, rfl, hp', h⟩
    · rintro ⟨q, hq, -, h⟩
      rwa [(List.cons.inj hq).2]

theorem not_closes_of_balanced? {u : List Char} (h : balanced? ⟨1, false, false⟩ u = none) :
    ∀ p, p <+: 123 :: encoded u → ¬Closes p := by
  intro p hp hcloses
  obtain ⟨q, -, hq, heven⟩ := (closes_iff hp).mp hcloses
  exact not_even_of_balanced? Nat.one_pos h q hq heven

/-- The object that is found closes its brace, and no shorter piece does. -/
theorem closes_of_balanced? {u o : List Char} (h : balanced? ⟨1, false, false⟩ u = some o) :
    ('\x7b' :: o).getLast? = some '\x7d' ∧ encoded ('\x7b' :: o) <+: 123 :: encoded u ∧
      Closes (encoded ('\x7b' :: o)) ∧
      ∀ p, p <+: 123 :: encoded u → Closes p → encoded ('\x7b' :: o) <+: p := by
  obtain ⟨hlast, heven, hshortest⟩ := even_of_balanced? Nat.one_pos h
  have hbytes : encoded ('\x7b' :: o) = 123 :: encoded o := rfl
  have hprefix : encoded o <+: encoded u := Text.encoded_of_prefix (prefix_of_balanced? h)
  have hobject : 123 :: encoded o <+: 123 :: encoded u := (List.prefix_cons_inj 123).mpr hprefix
  rw [hbytes]
  refine ⟨?_, hobject, (closes_iff hobject).mpr ⟨encoded o, rfl, hprefix, heven⟩, fun p hp hcloses => ?_⟩
  · have hne : o ≠ [] := by
      rintro rfl
      exact absurd hlast (by simp)
    rw [List.getLast?_cons_of_ne_nil hne, hlast]
  · obtain ⟨q, rfl, hq, heven'⟩ := (closes_iff hp).mp hcloses
    exact (List.prefix_cons_inj 123).mpr (hshortest q hq heven')

/-- A text has no opening brace, or it has a first one. -/
theorem dropWhile_brace (x : List Char) :
    ('\x7b' ∉ x ∧ x.dropWhile (· != '\x7b') = []) ∨
      '\x7b' ∈ x ∧ ∃ u, x.dropWhile (· != '\x7b') = '\x7b' :: u := by
  have hhead := List.head?_dropWhile_not (· != '\x7b') x
  have hsuffix := List.dropWhile_suffix (· != '\x7b') (l := x)
  cases hx : x.dropWhile (· != '\x7b') with
  | nil =>
    refine Or.inl ⟨fun hmem => ?_, rfl⟩
    exact absurd rfl (bne_iff_ne.mp (List.dropWhile_eq_nil_iff.mp hx _ hmem))
  | cons c u =>
    rw [hx] at hhead hsuffix
    obtain rfl : c = '\x7b' := by simpa using hhead
    exact Or.inr ⟨hsuffix.subset List.mem_cons_self, u, rfl⟩

/-- A piece from the first brace on lies between borders of characters. -/
theorem slice?_of_dropWhile {text : String} {o w : List Char}
    (h : text.toList.dropWhile (· != '\x7b') = '\x7b' :: (o ++ w)) {i : Nat}
    (hi : i = (encoded (text.toList.takeWhile (· != '\x7b'))).length) :
    slice? text (i, i + 1 + (encoded o).length) = some (String.ofList ('\x7b' :: o)) := by
  have hparts := List.takeWhile_append_dropWhile (p := (· != '\x7b')) (l := text.toList)
  rw [h, ← List.cons_append] at hparts
  have hslice := Text.slice?_ofList (text.toList.takeWhile (· != '\x7b')) ('\x7b' :: o) w
  rw [hparts, String.ofList_toList, ← hi] at hslice
  have hstop : i + 1 + (encoded o).length = i + (encoded ('\x7b' :: o)).length := by
    rw [Nat.add_assoc, Nat.add_comm 1]
    rfl
  rw [hstop]
  exact hslice

/-- **The object of a reply.**  The search through the bytes of a reply never closes a brace when none
is open, and it finds what is taken for the object.  Nothing is found exactly if there is no opening
brace, or no piece from the first one on closes it outside of string literals.  Otherwise what is found
begins and ends at the border of a character, with an opening and a closing brace, and is the shortest
of these pieces. -/
theorem extractObject?_shortest (text : String) :
    let bytes := text.toUTF8.data.toList
    let start := (bytes.takeWhile (· != 123)).length
    let rest := bytes.dropWhile (· != 123)
    search ⟨0, false, false⟩ start rest ≠ .below ∧
    (extractObject? text.toList = none ↔ search ⟨0, false, false⟩ start rest = .missing) ∧
    (extractObject? text.toList = none ↔
      '\x7b' ∉ text.toList ∨ ∀ p, p <+: rest → ¬Closes p) ∧
    ∀ o, extractObject? text.toList = some o →
      ∃ stop, search ⟨0, false, false⟩ start rest = .found stop ∧
        slice? text (start, stop) = some (String.ofList o) ∧
        o.head? = some '\x7b' ∧ o.getLast? = some '\x7d' ∧
        encoded o <+: rest ∧ Closes (encoded o) ∧ ∀ p, p <+: rest → Closes p → encoded o <+: p := by
  intro bytes start rest
  obtain ⟨hfront, hrest⟩ := takeWhile_encoded text.toList
  have hbytes : bytes = encoded text.toList := Text.toList_toUTF8 text
  rw [← hbytes] at hfront hrest
  rcases dropWhile_brace text.toList with ⟨habsent, hnil⟩ | ⟨hpresent, u, hu⟩
  · have hnone : extractObject? text.toList = none := by
      rw [extractObject?, hnil]
      rfl
    have hempty : rest = [] := by
      show bytes.dropWhile (· != 123) = []
      rw [hrest, hnil, Text.encoded_nil]
    rw [hempty, hnone]
    exact ⟨by simp [search], iff_of_true rfl rfl, iff_of_true rfl (Or.inl habsent), by simp⟩
  · have hopen : rest = 123 :: encoded u := by
      show bytes.dropWhile (· != 123) = 123 :: encoded u
      rw [hrest, hu]
      rfl
    have hextract : extractObject? text.toList = (balanced? ⟨1, false, false⟩ u).map ('\x7b' :: ·) := by
      rw [extractObject?, hu]
      rfl
    -- The first byte is the brace, and from there on the counter is positive.
    have hsearch : search ⟨0, false, false⟩ start (123 :: encoded u) =
        search ⟨1, false, false⟩ (start + 1) (encoded u) := rfl
    rw [hopen, hsearch, search_encoded Nat.one_pos, hextract]
    cases hfound : balanced? ⟨1, false, false⟩ u with
    | none =>
      exact ⟨by simp, iff_of_true rfl rfl, iff_of_true rfl (Or.inr (not_closes_of_balanced? hfound)),
        by simp⟩
    | some o =>
      obtain ⟨hlast, hprefix, hcloses, hshortest⟩ := closes_of_balanced? hfound
      refine ⟨by simp, iff_of_false (Option.some_ne_none _) (by simp),
        iff_of_false (Option.some_ne_none _) ?_, ?_⟩
      · rintro (habsent | hnot)
        · exact habsent hpresent
        · exact hnot _ hprefix hcloses
      · intro object hobject
        obtain rfl : '\x7b' :: o = object := Option.some.inj hobject
        obtain ⟨w, rfl⟩ := prefix_of_balanced? hfound
        exact ⟨start + 1 + (encoded o).length, rfl, slice?_of_dropWhile hu (congrArg List.length hfront),
          rfl, hlast, hprefix, hcloses, hshortest⟩

end SinkAudit.Reply

import SinkAudit.Proofs.Json.RoundTrip

/-!
# Reading an indented text

An indented text has blanks between its tokens: the start of a line before every item, member and
closing bracket, and one blank behind the colon of a member.  None of them changes what the text
spells, so the proof for the layout without blanks is repeated with the blanks passed over.

* `Json.spells_prettyAt`: the indented text of a value has the tokens of the value.
* `Json.parse?_pretty`: reading undoes writing in this layout too.
-/

namespace SinkAudit

open Lexer (isGap)

namespace Spells

variable {s r : List Char} {ts us : List JsonToken}

/-- Blanks before a text do not change its tokens. -/
theorem indent (hr : Spells r us) : ∀ {g : List Char}, (∀ c ∈ g, isGap c = true) →
    Spells (g ++ r) us
  | [], _ => hr
  | c :: g, hg => by
    obtain ⟨hc, hrest⟩ := List.forall_mem_cons.mp hg
    exact nil.gap hc (indent hr hrest)

/-- A line may end behind a text. -/
theorem newline (hs : Spells s ts) (level : Nat) (hr : Spells r us) :
    Spells (s ++ ((Json.newline level).toList ++ r)) (ts ++ us) := by
  have hblank : ∀ c ∈ List.replicate (2 * level) ' ', isGap c = true := by
    intro c hc
    rw [(List.mem_replicate.mp hc).2]
    rfl
  have hchars : (Json.newline level).toList = '\n' :: List.replicate (2 * level) ' ' := by
    simp [Json.newline, Text.spaces, String.toList_append]
  rw [hchars, List.cons_append]
  exact hs.gap rfl (hr.indent hblank)

end Spells

namespace Json

/-! ## Indented values -/

mutual

/-- The indented text of a value has the tokens of the value. -/
theorem spells_prettyAt : ∀ (v : Json) (level : Nat), v.isPlain = true →
    Spells (v.prettyAt level).toList v.toTokens
  | .null, _, h => by simpa only [prettyAt, compact] using spells_compact .null h
  | .bool b, _, h => by simpa only [prettyAt, compact] using spells_compact (.bool b) h
  | .num n, _, h => by simpa only [prettyAt, compact] using spells_compact (.num n) h
  | .str t, _, h => by simpa only [prettyAt, compact] using spells_compact (.str t) h
  | .arr items, level, h => by
    have hitems := spells_prettyItems items (level + 1) h
    cases items with
    | nil => simpa [prettyAt, compact, compactItems] using spells_compact (.arr []) h
    | cons v vs =>
      have hclose : Spells [']'] [.closeBracket] := Spells.nil.mark rfl (fun _ => rfl) .nil
      have hlines := Spells.nil.newline (level + 1) (hitems.newline level hclose)
      have hchars : ((arr (v :: vs)).prettyAt level).toList =
          '[' :: ((newline (level + 1)).toList ++ ((prettyItems (level + 1) (v :: vs)).toList ++
            ((newline level).toList ++ [']']))) := by
        simp [prettyAt, String.toList_append]
      rw [hchars, toTokens]
      exact Spells.nil.mark rfl (fun _ => rfl) hlines
  | .obj members, level, h => by
    have hmembers := spells_prettyMembers members (level + 1) h
    cases members with
    | nil => simpa [prettyAt, compact, compactMembers] using spells_compact (.obj []) h
    | cons m ms =>
      have hclose : Spells ['\x7d'] [.closeBrace] := Spells.nil.mark rfl (fun _ => rfl) .nil
      have hlines := Spells.nil.newline (level + 1) (hmembers.newline level hclose)
      have hchars : ((obj (m :: ms)).prettyAt level).toList =
          '\x7b' :: ((newline (level + 1)).toList ++ ((prettyMembers (level + 1) (m :: ms)).toList ++
            ((newline level).toList ++ ['\x7d']))) := by
        simp [prettyAt, String.toList_append]
      rw [hchars, toTokens]
      exact Spells.nil.mark rfl (fun _ => rfl) hlines

/-- The lines of items have the tokens of the items with commas between them. -/
theorem spells_prettyItems : ∀ (items : List Json) (level : Nat), allPlain items = true →
    Spells (prettyItems level items).toList (itemTokens items)
  | [], _, _ => Spells.nil
  | [v], level, h => by
    rw [allPlain, Bool.and_eq_true] at h
    rw [prettyItems, itemTokens]
    exact spells_prettyAt v level h.1
  | v :: w :: vs, level, h => by
    rw [allPlain, Bool.and_eq_true] at h
    have hrest := Spells.nil.newline level (spells_prettyItems (w :: vs) level h.2)
    have hfirst := (spells_prettyAt v level h.1).mark (c := ',') rfl (fun _ => rfl) hrest
    have hchars : (prettyItems level (v :: w :: vs)).toList = (v.prettyAt level).toList ++
        ',' :: ((newline level).toList ++ (prettyItems level (w :: vs)).toList) := by
      simp [prettyItems, String.toList_append]
    rw [hchars, itemTokens]
    exact hfirst

/-- The lines of members have the tokens of the members with commas between them. -/
theorem spells_prettyMembers : ∀ (members : List (Option String × Json)) (level : Nat),
    membersPlain members = true → Spells (prettyMembers level members).toList (memberTokens members)
  | [], _, _ => Spells.nil
  | [(k, v)], level, h => by
    rw [membersPlain, Bool.and_eq_true] at h
    have hvalue := Spells.nil.gap (c := ' ') rfl (spells_prettyAt v level h.1)
    have hname := Spells.quoteText k (Spells.nil.mark (c := ':') rfl (fun _ => rfl) hvalue)
    have hchars : (prettyMembers level [(k, v)]).toList =
        (quoteText k).toList ++ ':' :: ' ' :: (v.prettyAt level).toList := by
      simp [prettyMembers, String.toList_append]
    rw [hchars, memberTokens]
    exact hname
  | (k, v) :: m :: ms, level, h => by
    rw [membersPlain, Bool.and_eq_true] at h
    have hrest := Spells.nil.newline level (spells_prettyMembers (m :: ms) level h.2)
    have hfirst := (spells_prettyAt v level h.1).mark (c := ',') rfl (fun _ => rfl) hrest
    have hvalue := Spells.nil.gap (c := ' ') rfl hfirst
    have hname := Spells.quoteText k (Spells.nil.mark (c := ':') rfl (fun _ => rfl) hvalue)
    have hchars : (prettyMembers level ((k, v) :: m :: ms)).toList =
        (quoteText k).toList ++ ':' :: ' ' :: ((v.prettyAt level).toList ++
          ',' :: ((newline level).toList ++ (prettyMembers level (m :: ms)).toList)) := by
      simp [prettyMembers, String.toList_append]
    rw [hchars, memberTokens]
    exact hname

end

/-- Reading undoes writing, also where the text is indented. -/
theorem parse?_pretty (v : Json) (h : v.isPlain = true) : parse? v.pretty = some v :=
  parse?_of_spells (spells_prettyAt v 0 h)

end Json

end SinkAudit

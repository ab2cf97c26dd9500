import Mathlib.Data.List.Nodup
import SinkAudit.Json.Record
import SinkAudit.Proofs.Json.Pretty

/-!
# Values and their texts

A kind of value has a way to be written as JSON and a way to be read from it.  The two go together
when three things hold (`Faithful`): what is written has natural numbers only, what fits is read back,
and what is read fits.  The third is what a text from outside needs: it may leave fields out, repeat
others or spell them differently, but whatever is read from it can be written and read again.

* `Layout`: the two ways to lay out a text.
* `RoundTrips`: reading undoes writing, and writing what was read settles after one round.
* `Faithful.roundTrips`: the three conditions suffice, in both layouts.
* `Faithful.list`: they go over to lists.
* `Record.ofJson?_object`: the record of an object whose names are distinct.
-/

namespace SinkAudit

/-! ## Layouts -/

/-- How a text is laid out: without blanks, or one member or item a line. -/
inductive Layout where
  | compact
  | pretty

/-- The text of a value in a layout. -/
def Layout.text : Layout → Json → String
  | compact, v => v.compact
  | pretty, v => v.pretty

theorem Layout.parse?_text (l : Layout) {v : Json} (h : v.isPlain = true) :
    Json.parse? (l.text v) = some v := by
  cases l with
  | compact => exact Json.parse?_compact v h
  | pretty => exact Json.parse?_pretty v h

/-! ## Round trips -/

section RoundTrips

variable {α : Type} {write : α → Json} {read : Json → Option α} {Fits : α → Prop}

/-- The value that a text is. -/
def decode (read : Json → Option α) (text : String) : Option α :=
  (Json.parse? text).bind read

/-- A text read and written again. -/
def recode (write : α → Json) (read : Json → Option α) (l : Layout) (text : String) :
    Option String :=
  (decode read text).map fun a => l.text (write a)

/-- Reading undoes writing for every value that fits, and a text that was read and written again is
read and written as itself. -/
structure RoundTrips (write : α → Json) (read : Json → Option α) (Fits : α → Prop) : Prop where
  decode_text : ∀ (l : Layout) (a : α), Fits a → decode read (l.text (write a)) = some a
  recode_recode : ∀ (l : Layout) (text text' : String),
    recode write read l text = some text' → recode write read l text' = some text'

/-- What is written is plain, what fits is read back, and what is read fits. -/
structure Faithful (write : α → Json) (read : Json → Option α) (Fits : α → Prop) : Prop where
  isPlain : ∀ a, (write a).isPlain = true
  read_write : ∀ a, Fits a → read (write a) = some a
  fits : ∀ v a, read v = some a → Fits a

theorem Faithful.decode_text (h : Faithful write read Fits) (l : Layout) {a : α} (ha : Fits a) :
    decode read (l.text (write a)) = some a := by
  rw [decode, l.parse?_text (h.isPlain a), Option.bind_some, h.read_write a ha]

theorem Faithful.roundTrips (h : Faithful write read Fits) : RoundTrips write read Fits := by
  refine ⟨fun l a ha => h.decode_text l ha, ?_⟩
  intro l text text' hrecode
  obtain ⟨a, ha, rfl⟩ := Option.map_eq_some_iff.mp hrecode
  obtain ⟨v, -, hv⟩ := Option.bind_eq_some_iff.mp ha
  rw [recode, h.decode_text l (h.fits v a hv), Option.map_some]

/-! ## Lists -/

theorem allPlain_map (h : ∀ a, (write a).isPlain = true) (as : List α) :
    Json.allPlain (as.map write) = true := by
  induction as with
  | nil => rfl
  | cons a as ih => rw [List.map_cons, Json.allPlain, h a, ih, Bool.and_self]

theorem all?_map (h : ∀ a, Fits a → read (write a) = some a) {as : List α}
    (has : ∀ a ∈ as, Fits a) : Json.all? read (as.map write) = some as := by
  induction as with
  | nil => rfl
  | cons a as ih =>
    obtain ⟨ha, hrest⟩ := List.forall_mem_cons.mp has
    rw [List.map_cons, Json.all?, h a ha, ih hrest]

theorem fits_of_all? (h : ∀ v a, read v = some a → Fits a) {vs : List Json} {as : List α}
    (has : Json.all? read vs = some as) : ∀ a ∈ as, Fits a := by
  induction vs generalizing as with
  | nil =>
    obtain rfl := Option.some.inj has
    exact fun a ha => absurd ha List.not_mem_nil
  | cons v vs ih =>
    rw [Json.all?] at has
    split at has
    case h_1 a as' ha has' =>
      obtain rfl := Option.some.inj has
      exact List.forall_mem_cons.mpr ⟨h v a ha, ih has'⟩
    case h_2 => exact absurd has (by simp)

/-- A list is written and read item by item. -/
theorem Faithful.list (h : Faithful write read Fits) :
    Faithful (fun as => .arr (as.map write)) (Json.list? read) (fun as => ∀ a ∈ as, Fits a) where
  isPlain as := allPlain_map h.isPlain as
  read_write _ has := all?_map h.read_write has
  fits v as has := by
    cases v with
    | arr items => exact fits_of_all? h.fits has
    | _ => exact absurd has (by simp [Json.list?])

end RoundTrips

/-! ## Plain fields -/

namespace Json

@[simp] theorem string?_text (s : String) : (text s).string? = some s := rfl

@[simp] theorem bool?_bool (b : Bool) : (bool b).bool? = some b := rfl

theorem natBelow?_ofNat {bound n : Nat} (h : n < bound) : natBelow? bound (ofNat n) = some n := by
  rw [ofNat, natBelow?, if_pos h]

theorem lt_of_natBelow? {bound n : Nat} {v : Json} (h : natBelow? bound v = some n) :
    n < bound := by
  cases v with
  | num m =>
    cases m with
    | nat m =>
      rw [natBelow?] at h
      split at h
      case isTrue hlt =>
        obtain rfl := Option.some.inj h
        exact hlt
      case isFalse => exact absurd h (by simp)
    | _ => exact absurd h (by simp [natBelow?])
  | _ => exact absurd h (by simp [natBelow?])

/-- Strings are written and read as they are. -/
theorem faithful_text : Faithful text string? (fun _ => True) where
  isPlain _ := rfl
  read_write _ _ := rfl
  fits _ _ _ := trivial

@[simp] theorem list?_texts (l : List String) : list? string? (texts l) = some l :=
  faithful_text.list.read_write l fun _ _ => trivial

@[simp] theorem isPlain_texts (l : List String) : (texts l).isPlain = true :=
  faithful_text.list.isPlain l

@[simp] theorem orNull_textOrNull (o : Option String) :
    Record.orNull string? (textOrNull o) = some o := by
  cases o <;> rfl

@[simp] theorem isPlain_textOrNull (o : Option String) : (textOrNull o).isPlain = true := by
  cases o <;> rfl

end Json

/-! ## Records -/

namespace Record

variable {names : List String} {members : List (String × Json)} {α : Type}

/-- Of an object whose names are distinct, the members with the given names are taken. -/
theorem pick?_object (h : (members.map (·.1)).Nodup) :
    pick? names (members.map fun m => (some m.1, m.2)) =
      some (members.filter fun m => names.contains m.1) := by
  induction members with
  | nil => rfl
  | cons m ms ih =>
    rw [List.map_cons, List.nodup_cons] at h
    obtain ⟨hm, hms⟩ := h
    rw [List.map_cons, pick?, ih hms]
    by_cases hname : names.contains m.1 = true
    · have hfresh : ((ms.filter fun f => names.contains f.1).any fun f => f.1 == m.1) = false := by
        rw [List.any_eq_false]
        intro f hf heq
        have hmem : f.1 ∈ ms.map (·.1) := List.mem_map_of_mem (List.mem_filter.mp hf).1
        exact hm (beq_iff_eq.mp heq ▸ hmem)
      simp only [hname, hfresh, List.filter_cons_of_pos]
      rfl
    · simp only [hname, Bool.not_false, if_true, List.filter_cons, Bool.false_eq_true, if_false]

theorem ofJson?_object (surplus : Bool) (h : (members.map (·.1)).Nodup) :
    ofJson? names surplus (.object members) =
      some ⟨false, members.filter fun m => names.contains m.1⟩ := by
  rw [Json.object, ofJson?, pick?_object h, Option.map_some]

/-- An object with exactly the given names is taken as a whole. -/
theorem ofJson?_fields (surplus : Bool) (hnames : members.map (·.1) = names) (h : names.Nodup) :
    ofJson? names surplus (.object members) = some ⟨false, members⟩ := by
  have hall : ∀ m ∈ members, names.contains m.1 = true := by
    intro m hm
    rw [← hnames, List.contains_iff_mem]
    exact List.mem_map_of_mem hm
  rw [ofJson?_object surplus (hnames ▸ h), List.filter_eq_self.mpr hall]

@[simp] theorem get?_cons (listed : Bool) (k name : String) (v : Json)
    (fs : List (String × Json)) :
    (Record.mk listed ((k, v) :: fs)).get? name =
      if k = name then some v else (Record.mk listed fs).get? name := by
  by_cases h : k = name
  · simp [get?, h]
  · have hne : (k == name) = false := beq_false_of_ne h
    simp [get?, h, hne]

theorem exists_of_required {r : Record} {name : String} {read : Json → Option α} {a : α}
    (h : r.required name read = some a) : ∃ v, read v = some a := by
  obtain ⟨v, -, hv⟩ := Option.bind_eq_some_iff.mp h
  exact ⟨v, hv⟩

/-- A field with a default has it, or what was given for it. -/
theorem eq_or_exists_of_defaulted {r : Record} {name : String} {read : Json → Option α} {d a : α}
    (h : r.defaulted name read d = some a) : a = d ∨ ∃ v, read v = some a := by
  rw [defaulted] at h
  split at h
  · exact Or.inl (Option.some.inj h).symm
  · exact Or.inr ⟨_, h⟩

end Record

end SinkAudit

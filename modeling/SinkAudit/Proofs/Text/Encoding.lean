import Mathlib.Data.List.Flatten

/-!
# Texts as bytes

A file holds bytes, and they are a text only if they encode one.  Here it is said what becomes of that
when a text is added at the end of the bytes, and when the bytes of a text are cut off.  And texts are
ordered as their bytes are.

A byte below 128 is a character by itself and never part of another one.  So a search for such
characters may go through the bytes, and what it cuts out begins and ends at the border of a character.

* `fromUTF8?_append`: what was no text does not become one by a text added to it, and what was a text
  is then the two texts together.
* `fromUTF8?_cut`: the first bytes of a text are a text exactly if they stop at the border of a
  character, and then they are the characters before.
* `toUTF8_lt`: a smaller text has smaller bytes.
* `utf8EncodeChar_cases`, `toNat_of_mem_utf8EncodeChar`: the bytes below 128.
* `slice?`, `slice?_ofList`: the text between two borders.
-/

namespace SinkAudit.Text

theorem fromUTF8?_toUTF8 (t : String) : String.fromUTF8? t.toUTF8 = some t :=
  dif_pos t.isValidUTF8

theorem toUTF8_append (s t : String) : (s ++ t).toUTF8 = s.toUTF8 ++ t.toUTF8 :=
  String.toByteArray_append

theorem eq_toUTF8_of_fromUTF8? {bytes : ByteArray} {t : String}
    (h : String.fromUTF8? bytes = some t) : bytes = t.toUTF8 := by
  rw [String.fromUTF8?] at h
  split at h
  · obtain rfl := Option.some.inj h
    rfl
  · exact absurd h (by simp)

theorem fromUTF8?_eq_none_iff {bytes : ByteArray} :
    String.fromUTF8? bytes = none ↔ ¬bytes.IsValidUTF8 := by
  rw [String.fromUTF8?]
  split
  · rename_i hvalid
    exact iff_of_false (by simp) fun h => h hvalid
  · rename_i hinvalid
    exact iff_of_true rfl hinvalid

/-- Bytes that are a text together with a text after them are one by themselves: where the text after
them starts is the border of a character. -/
theorem isValidUTF8_of_append {bytes : ByteArray} {t : String}
    (h : (bytes ++ t.toUTF8).IsValidUTF8) : bytes.IsValidUTF8 := by
  obtain ⟨whole, hwhole⟩ : ∃ s : String, s.toByteArray = bytes ++ t.toUTF8 :=
    ⟨.ofByteArray _ h, rfl⟩
  have hsize : whole.utf8ByteSize = bytes.size + t.utf8ByteSize := by
    rw [← String.size_toByteArray, hwhole]
    exact ByteArray.size_append
  have hend : whole.toByteArray.extract bytes.size whole.utf8ByteSize = t.toUTF8 := by
    rw [hwhole, hsize]
    exact ByteArray.extract_append_eq_right rfl rfl
  have hborder : String.Pos.Raw.IsValid whole ⟨bytes.size⟩ := by
    refine String.Pos.Raw.isValid_iff_isValidUTF8_extract_utf8ByteSize.mpr ⟨?_, ?_⟩
    · show bytes.size ≤ whole.utf8ByteSize
      omega
    · rw [hend]
      exact t.isValidUTF8
  have hstart : whole.toByteArray.extract 0 bytes.size = bytes := by
    rw [hwhole]
    exact ByteArray.extract_append_eq_left rfl
  have hvalid := hborder.isValidUTF8_extract_zero
  rwa [hstart] at hvalid

/-- A text added to bytes is added to the text that they are, if they are one. -/
theorem fromUTF8?_append (bytes : ByteArray) (t : String) :
    String.fromUTF8? (bytes ++ t.toUTF8) = (String.fromUTF8? bytes).map (· ++ t) := by
  cases hbytes : String.fromUTF8? bytes with
  | none =>
    refine fromUTF8?_eq_none_iff.mpr fun hvalid => ?_
    exact fromUTF8?_eq_none_iff.mp hbytes (isValidUTF8_of_append hvalid)
  | some s =>
    rw [eq_toUTF8_of_fromUTF8? hbytes, ← toUTF8_append, fromUTF8?_toUTF8]
    rfl

/-- The bytes of a text, cut off: the characters before the cut, or no text at all. -/
theorem fromUTF8?_cut {t : String} {n : Nat} (hn : n ≤ t.utf8ByteSize) :
    (∃ t₁ t₂, t = t₁ ++ t₂ ∧ t₁.utf8ByteSize = n ∧ String.Pos.Raw.IsValid t ⟨n⟩ ∧
        String.fromUTF8? (t.toUTF8.extract 0 n) = some t₁) ∨
      ¬String.Pos.Raw.IsValid t ⟨n⟩ ∧ String.fromUTF8? (t.toUTF8.extract 0 n) = none := by
  by_cases hborder : String.Pos.Raw.IsValid t ⟨n⟩
  · refine Or.inl ?_
    have hstart := hborder.isValidUTF8_extract_zero
    have hrest := hborder.isValidUTF8_extract_utf8ByteSize
    refine ⟨.ofByteArray _ hstart, .ofByteArray _ hrest, ?_, ?_, hborder, dif_pos hstart⟩
    · apply String.toByteArray_inj.mp
      rw [String.toByteArray_append]
      have hsplit := ByteArray.extract_eq_extract_append_extract (a := t.toByteArray) n
        (Nat.zero_le n) hn
      exact ByteArray.extract_zero_size.symm.trans hsplit
    · show (t.toByteArray.extract 0 n).size = n
      rw [ByteArray.size_extract]
      exact Nat.min_eq_left hn
  · refine Or.inr ⟨hborder, fromUTF8?_eq_none_iff.mpr fun hvalid => hborder ?_⟩
    exact String.Pos.Raw.isValid_iff_isValidUTF8_extract_zero.mpr ⟨hn, hvalid⟩

/-! ## The order of texts -/

/-- The bytes of a text are those of its characters. -/
theorem toList_toUTF8 (t : String) : t.toUTF8.data.toList = t.toList.flatMap String.utf8EncodeChar := by
  have hencode : t.toUTF8 = t.toList.utf8Encode := String.utf8Encode_toList.symm
  rw [hencode, List.utf8Encode, List.toList_data_toByteArray]

/-- Of two characters the smaller one has the smaller bytes, whatever comes after them. -/
theorem utf8EncodeChar_append_lt {c d : Char} (h : c.val.toNat < d.val.toNat) (x y : List UInt8) :
    String.utf8EncodeChar c ++ x < String.utf8EncodeChar d ++ y := by
  have hd : d.val.toNat < 0x110000 := by
    rcases d.valid with hd | hd
    · exact Nat.lt_trans hd (by decide)
    · exact hd.2
  rw [String.utf8EncodeChar, String.utf8EncodeChar]
  generalize c.val.toNat = m at h
  generalize d.val.toNat = n at h hd
  have hquot : ∀ k : Nat, k / 4096 = k / 64 / 64 ∧ k / 262144 = k / 64 / 64 / 64 := by omega
  simp only [hquot]
  -- One case for each pair of lengths: the first bytes tell the lengths apart, and where these are the
  -- same, the bytes are the digits to base 64.
  repeat' split
  all_goals
    simp only [List.cons_append, List.nil_append, List.cons_lt_cons_iff, UInt8.lt_iff_toNat_lt,
      ← UInt8.toNat_inj, UInt8.toNat_ofNat']
    omega

theorem flatMap_utf8EncodeChar_lt : ∀ {s t : List Char}, s < t →
    s.flatMap String.utf8EncodeChar < t.flatMap String.utf8EncodeChar
  | [], [], h => absurd h (by simp)
  | c :: s, [], h => absurd h (by simp)
  | [], d :: t, _ => by
    obtain ⟨b, bs, hbs⟩ := List.exists_cons_of_ne_nil (String.utf8EncodeChar_ne_nil (c := d))
    rw [List.flatMap_cons, hbs]
    exact List.nil_lt_cons _ _
  | c :: s, d :: t, h => by
    rw [List.flatMap_cons, List.flatMap_cons]
    rcases List.cons_lt_cons_iff.mp h with hlt | ⟨rfl, hlt⟩
    · exact utf8EncodeChar_append_lt hlt _ _
    · exact List.append_left_lt (flatMap_utf8EncodeChar_lt hlt)

/-- A smaller text has smaller bytes. -/
theorem toUTF8_lt {s t : String} (h : s < t) : s.toUTF8.data.toList < t.toUTF8.data.toList := by
  rw [toList_toUTF8, toList_toUTF8]
  exact flatMap_utf8EncodeChar_lt h

/-- A text with some characters left out has no more bytes. -/
theorem utf8ByteSize_le_of_sublist {s t : String} (h : List.Sublist s.toList t.toList) :
    s.utf8ByteSize ≤ t.utf8ByteSize := by
  have hsize : ∀ u : String, u.utf8ByteSize = (u.toList.flatMap String.utf8EncodeChar).length :=
    fun u => congrArg List.length (toList_toUTF8 u)
  rw [hsize, hsize]
  exact (h.flatMap _).length_le

/-! ## Bytes below 128 -/

/-- The bytes of characters. -/
def encoded (s : List Char) : List UInt8 :=
  s.flatMap String.utf8EncodeChar

@[simp] theorem encoded_nil : encoded [] = [] := rfl

theorem encoded_cons (c : Char) (s : List Char) :
    encoded (c :: s) = String.utf8EncodeChar c ++ encoded s :=
  List.flatMap_cons

theorem encoded_append (s t : List Char) : encoded (s ++ t) = encoded s ++ encoded t :=
  List.flatMap_append

theorem encoded_of_prefix {s t : List Char} (h : s <+: t) : encoded s <+: encoded t := by
  obtain ⟨r, rfl⟩ := h
  rw [encoded_append]
  exact List.prefix_append _ _

theorem length_encoded (s : List Char) : (encoded s).length = (String.ofList s).utf8ByteSize := by
  have hbytes := toList_toUTF8 (String.ofList s)
  rw [String.toList_ofList] at hbytes
  rw [encoded, ← hbytes]
  rfl

/-- A character below 128 is the one byte with its number; the bytes of every other character are above
these. -/
theorem utf8EncodeChar_cases (c : Char) :
    (c.toNat < 128 ∧ String.utf8EncodeChar c = [UInt8.ofNat c.toNat]) ∨
      128 ≤ c.toNat ∧ ∀ b ∈ String.utf8EncodeChar c, 128 ≤ b.toNat := by
  rcases Nat.lt_or_ge c.toNat 128 with hc | hc
  · refine Or.inl ⟨hc, ?_⟩
    rw [String.utf8EncodeChar]
    exact if_pos (Nat.le_of_lt_succ hc)
  · refine Or.inr ⟨hc, ?_⟩
    have hv : ¬c.val.toNat ≤ 127 := Nat.not_le.mpr hc
    rw [String.utf8EncodeChar]
    simp only [if_neg hv]
    generalize c.val.toNat = v
    -- One case for each number of bytes: every byte is a digit to base 64 with 128 or more added.
    repeat' split
    all_goals
      simp only [List.forall_mem_cons, List.not_mem_nil, false_implies, implies_true, and_true, UInt8.toNat_ofNat']
      omega

/-- A byte below 128 stands for the character with its number and is part of no other. -/
theorem toNat_of_mem_utf8EncodeChar {b : UInt8} {c : Char} (h : b ∈ String.utf8EncodeChar c)
    (hb : b.toNat < 128) : c.toNat = b.toNat := by
  rcases utf8EncodeChar_cases c with ⟨hc, henc⟩ | ⟨-, hall⟩
  · rw [henc, List.mem_singleton] at h
    rw [h, UInt8.toNat_ofNat']
    omega
  · exact absurd (hall b h) (Nat.not_le.mpr hb)

theorem notMem_utf8EncodeChar {c d : Char} (hd : d.toNat < 128) (hne : c ≠ d) :
    UInt8.ofNat d.toNat ∉ String.utf8EncodeChar c := by
  intro hmem
  have hnat : (UInt8.ofNat d.toNat).toNat = d.toNat := by
    rw [UInt8.toNat_ofNat']
    omega
  have hc := toNat_of_mem_utf8EncodeChar hmem (hnat.symm ▸ hd)
  exact hne (Char.toNat_inj.mp (hc.trans hnat))

/-! ## Slices -/

/-- The text from one byte up to another, if both are borders of characters. -/
def slice? (t : String) (span : Nat × Nat) : Option String :=
  if span.1 ≤ span.2 ∧ String.Pos.Raw.isValid t ⟨span.1⟩ ∧ String.Pos.Raw.isValid t ⟨span.2⟩ then
    String.fromUTF8? (t.toUTF8.extract span.1 span.2)
  else none

/-- A text can be cut out of what it stands in. -/
theorem slice?_append (a b c : String) :
    slice? (a ++ (b ++ c)) (a.utf8ByteSize, a.utf8ByteSize + b.utf8ByteSize) = some b := by
  have hstart : String.Pos.Raw.IsValid (a ++ (b ++ c)) ⟨a.utf8ByteSize⟩ :=
    String.Pos.Raw.isValid_iff_exists_append.mpr ⟨a, b ++ c, rfl, rfl⟩
  have hstop : String.Pos.Raw.IsValid (a ++ (b ++ c)) ⟨a.utf8ByteSize + b.utf8ByteSize⟩ := by
    refine String.Pos.Raw.isValid_iff_exists_append.mpr ⟨a ++ b, c, String.append_assoc.symm, ?_⟩
    rw [String.rawEndPos, String.utf8ByteSize_append]
  have hbytes : (a ++ (b ++ c)).toUTF8.extract a.utf8ByteSize (a.utf8ByteSize + b.utf8ByteSize) =
      b.toUTF8 := by
    have hsize (t : String) : t.utf8ByteSize = t.toUTF8.size := rfl
    have hshift := ByteArray.extract_append_size_add (a := a.toUTF8) (b := b.toUTF8 ++ c.toUTF8)
      (i := 0) (j := b.toUTF8.size)
    rw [toUTF8_append, toUTF8_append, hsize, hsize]
    exact hshift.trans (ByteArray.extract_append_eq_left rfl)
  rw [slice?, if_pos ⟨Nat.le_add_right _ _, String.Pos.Raw.isValid_eq_true_iff.mpr hstart, 
    String.Pos.Raw.isValid_eq_true_iff.mpr hstop⟩, hbytes, fromUTF8?_toUTF8]

/-- Characters can be cut out of those between which they stand. -/
theorem slice?_ofList (a b c : List Char) :
    slice? (String.ofList (a ++ (b ++ c)))
      ((encoded a).length, (encoded a).length + (encoded b).length) = some (String.ofList b) := by
  rw [String.ofList_append, String.ofList_append, length_encoded, length_encoded, slice?_append]

end SinkAudit.Text

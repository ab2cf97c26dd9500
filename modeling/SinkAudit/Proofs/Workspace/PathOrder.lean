import SinkAudit.Proofs.Store.Entries
import SinkAudit.Proofs.Workspace.PathText

/-!
# The order of paths

Paths are compared part by part.  Below a directory only the names on the way down matter, so two
paths there are in the order of their names, however the path of the directory is written.

* `Path.compareParts_eq`: the order of paths is a lexicographic one.
* `Path.below`: the path that leads down from a directory by names.
* `Path.compare_below`: the order of such paths.
-/

namespace SinkAudit

open Std Workspace

namespace Path

/-! ## The order of parts -/

theorem compare_string_eq (s t : String) :
    Ord.compare s t = if s < t then .lt else if t < s then .gt else .eq := by
  show compareOfLessAndEq s t = _
  unfold compareOfLessAndEq
  by_cases hlt : s < t
  · rw [if_pos hlt, if_pos hlt]
  · rw [if_neg hlt, if_neg hlt]
    by_cases heq : s = t
    · rw [if_pos heq, if_neg (heq ▸ hlt)]
    · have hgt : t < s := Entries.lt_of_not_lt (Ne.symm heq) hlt
      rw [if_neg heq, if_pos hgt]

/-- Parts are in the order of their kinds, and parts of one kind in the order of their texts. -/
theorem comparePart_eq (a b : PathPart) :
    comparePart a b = compareLex (compareOn rank) (compareOn partText) a b := by
  cases a with
  | root => cases b <;> rfl
  | here => cases b <;> rfl
  | up => cases b <;> rfl
  | name s =>
    cases b with
    | name t => exact (compare_string_eq s t).symm
    | root => rfl
    | here => rfl
    | up => rfl

instance : TransCmp comparePart := by
  have hfun : comparePart = compareLex (compareOn rank) (compareOn partText) := by
    funext a b
    exact comparePart_eq a b
  rw [hfun]
  infer_instance

theorem compareParts_eq (as bs : List PathPart) :
    compareParts as bs = List.compareLex comparePart as bs := by
  induction as generalizing bs with
  | nil => cases bs <;> rfl
  | cons a as ih =>
    cases bs with
    | nil => rfl
    | cons b bs =>
      rw [compareParts, List.compareLex_cons_cons, ← ih]
      cases comparePart a b <;> rfl

instance : TransCmp Path.compare where
  eq_swap {a b} := by
    rw [Path.compare, Path.compare, compareParts_eq, compareParts_eq]
    exact OrientedCmp.eq_swap
  isLE_trans {a b c} hab hbc := by
    rw [Path.compare, compareParts_eq] at *
    exact TransCmp.isLE_trans hab hbc

/-- What two lists begin with does not matter. -/
theorem compareParts_append (ps as bs : List PathPart) :
    compareParts (ps ++ as) (ps ++ bs) = compareParts as bs := by
  induction ps with
  | nil => rfl
  | cons p ps ih =>
    have hself : comparePart p p = .eq := ReflCmp.compare_self
    rw [List.cons_append, List.cons_append, compareParts, hself]
    exact ih

/-- Names are in the order of their texts. -/
theorem compareParts_names (ks ls : List String) :
    compareParts (ks.map .name) (ls.map .name) = List.compareLex Ord.compare ks ls := by
  induction ks generalizing ls with
  | nil => cases ls <;> rfl
  | cons k ks ih =>
    cases ls with
    | nil => rfl
    | cons l ls =>
      have hname : comparePart (.name k) (.name l) = Ord.compare k l := (compare_string_eq k l).symm
      rw [List.map_cons, List.map_cons, compareParts, List.compareLex_cons_cons, hname, ih]
      cases Ord.compare k l <;> rfl

/-! ## Paths below a directory -/

/-- Whether a text can be the name of an entry. -/
def isEntryName (s : String) : Bool :=
  s != "" && s != "." && s != ".." && !s.toList.contains '/'

theorem isEntryName_iff {s : String} :
    isEntryName s = true ↔ Proper s ∧ '/' ∉ s.toList := by
  simp only [isEntryName, Bool.and_eq_true, bne_iff_ne, Bool.not_eq_true',
    List.contains_eq_mem, decide_eq_false_iff_not]
  constructor
  · rintro ⟨⟨⟨hempty, hdot⟩, hup⟩, hslash⟩
    exact ⟨⟨hdot, hempty, hup⟩, hslash⟩
  · rintro ⟨⟨hdot, hempty, hup⟩, hslash⟩
    exact ⟨⟨⟨hempty, hdot⟩, hup⟩, hslash⟩

theorem part?_of_isEntryName {s : String} (h : isEntryName s = true) : part? s = some (.name s) := by
  obtain ⟨hproper, -⟩ := isEntryName_iff.mp h
  have hempty : s.isEmpty = false := by
    rw [Bool.eq_false_iff]
    exact fun hs => hproper.ne_empty (String.isEmpty_iff.mp hs)
  rw [part?, hempty, if_neg (by simpa using hproper.ne_dot), if_neg (by simpa using hproper.ne_up)]

/-- The part that the first piece of a longer path makes. -/
def leadOf (first : String) : List PathPart :=
  if first.isEmpty then [.root] else if first == "." then [.here] else (part? first).toList

/-- The parts of a path that is not empty, by its pieces. -/
theorem parts_eq {path first : String} {rest : List String}
    (h : pieces [] path.toList = first :: rest) (hrest : first = "" → rest ≠ []) :
    parts path = leadOf first ++ rest.filterMap part? := by
  rw [parts, h, leadOf]
  dsimp only
  by_cases hfirst : first.isEmpty = true
  · have hne : rest.isEmpty = false :=
      List.isEmpty_eq_false_iff.mpr (hrest (String.isEmpty_iff.mp hfirst))
    rw [if_pos hfirst, if_pos hfirst, hne]
    rfl
  · rw [if_neg hfirst, if_neg hfirst]
    split <;> rfl

/-- A path continued by the name of an entry has one part more. -/
theorem parts_join {dir name : String} (hdir : dir ≠ "") (hname : isEntryName name = true) :
    parts (join dir name) = parts dir ++ [.name name] := by
  obtain ⟨hproper, hslash⟩ := isEntryName_iff.mp hname
  have hpart : [name].filterMap part? = [.name name] := by
    rw [List.filterMap_cons_some (part?_of_isEntryName hname), List.filterMap_nil]
  obtain ⟨rest, hpieces, hone⟩ := exists_pieces_eq_cons dir.toList []
  generalize String.ofList _ = first at hpieces
  have hrest : first = "" → rest ≠ [] := by
    rintro rfl hnil
    rw [pieces_toList (hone.mp hnil)] at hpieces
    exact hdir (List.cons.inj hpieces).1
  rw [join, not_startsWith_slash hslash, Bool.false_or,
    if_neg fun h => hdir (String.isEmpty_iff.mp h), parts_eq hpieces hrest]
  cases hend : dir.endsWith "/" with
  | false =>
    have hjoin : pieces [] (dir ++ "/" ++ name).toList = first :: (rest ++ [name]) := by
      rw [String.toList_append, String.toList_append, toList_slash, List.append_assoc,
        List.singleton_append, pieces_append_slash, hpieces, pieces_toList hslash, List.cons_append]
    rw [if_neg Bool.false_ne_true, parts_eq hjoin fun _ => by simp, List.filterMap_append, hpart,
      List.append_assoc]
  | true =>
    -- The last piece of the directory is empty, and the name takes its place.
    obtain ⟨t, ht⟩ := endsWith_slash_iff.mp hend
    obtain ⟨rest', hpieces', -⟩ := exists_pieces_eq_cons t []
    generalize String.ofList _ = first' at hpieces'
    have hempty : pieces [] ([] : List Char) = [""] := rfl
    rw [ht, pieces_append_slash, hpieces', hempty, List.cons_append, List.cons.injEq] at hpieces
    obtain ⟨rfl, rfl⟩ := hpieces
    have hjoin : pieces [] (dir ++ name).toList = first' :: (rest' ++ [name]) := by
      rw [String.toList_append, ht, List.append_assoc, List.singleton_append, pieces_append_slash,
        hpieces', pieces_toList hslash, List.cons_append]
    have hgone : [""].filterMap part? = [] := rfl
    rw [if_pos rfl, parts_eq hjoin fun _ => by simp, List.filterMap_append, List.filterMap_append,
      hpart, hgone, List.append_nil, List.append_assoc]

theorem fileName?_join {dir name : String} (hdir : dir ≠ "") (hname : isEntryName name = true) :
    fileName? (join dir name) = some name := by
  rw [fileName?, parts_join hdir hname, List.getLast?_append, List.getLast?_singleton]
  rfl

/-- A path is continued by adding to its text, after a slash if there is none. -/
theorem exists_join_eq {dir name : String} (hdir : dir ≠ "") (hname : isEntryName name = true) :
    ∃ slash, join dir name = dir ++ (slash ++ name) := by
  obtain ⟨-, hslash⟩ := isEntryName_iff.mp hname
  rw [join, not_startsWith_slash hslash, Bool.false_or,
    if_neg fun h => hdir (String.isEmpty_iff.mp h)]
  split
  · exact ⟨"", by rw [String.empty_append]⟩
  · exact ⟨"/", String.append_assoc⟩

theorem utf8ByteSize_le_join {dir name : String} (hdir : dir ≠ "")
    (hname : isEntryName name = true) :
    dir.utf8ByteSize + name.utf8ByteSize ≤ (join dir name).utf8ByteSize := by
  obtain ⟨slash, hjoin⟩ := exists_join_eq hdir hname
  rw [hjoin, String.utf8ByteSize_append, String.utf8ByteSize_append]
  omega

theorem join_ne_empty {dir name : String} (hdir : dir ≠ "") (hname : isEntryName name = true) :
    join dir name ≠ "" := by
  obtain ⟨slash, hjoin⟩ := exists_join_eq hdir hname
  rw [hjoin]
  intro h
  have hnil := congrArg String.toList h
  rw [String.toList_append, String.toList_empty, List.append_eq_nil_iff] at hnil
  exact hdir (String.toList_eq_nil_iff.mp hnil.1)

/-- The path that leads down from a directory by names. -/
def below (dir : String) (names : List String) : String :=
  names.foldl join dir

theorem parts_below {dir : String} (hdir : dir ≠ "") {names : List String}
    (hnames : ∀ k ∈ names, isEntryName k = true) :
    parts (below dir names) = parts dir ++ names.map .name := by
  induction names generalizing dir with
  | nil => rw [List.map_nil, List.append_nil, below, List.foldl_nil]
  | cons k ks ih =>
    obtain ⟨hk, hks⟩ := List.forall_mem_cons.mp hnames
    have hbelow : below dir (k :: ks) = below (join dir k) ks := rfl
    rw [hbelow, ih (join_ne_empty hdir hk) hks, parts_join hdir hk, List.append_assoc,
      List.singleton_append, List.map_cons]

/-- A path that leads further down is longer. -/
theorem utf8ByteSize_le_below {dir : String} (hdir : dir ≠ "") {names : List String}
    (hnames : ∀ k ∈ names, isEntryName k = true) :
    dir.utf8ByteSize ≤ (below dir names).utf8ByteSize := by
  induction names generalizing dir with
  | nil => exact Nat.le_refl _
  | cons k ks ih =>
    obtain ⟨hk, hks⟩ := List.forall_mem_cons.mp hnames
    have hstep := utf8ByteSize_le_join hdir hk
    have hrest := ih (join_ne_empty hdir hk) hks
    show dir.utf8ByteSize ≤ (below (join dir k) ks).utf8ByteSize
    omega

/-- Below a directory paths are in the order of the names on the way. -/
theorem compare_below {dir : String} (hdir : dir ≠ "") {ks ls : List String}
    (hks : ∀ k ∈ ks, isEntryName k = true) (hls : ∀ l ∈ ls, isEntryName l = true) :
    Path.compare (below dir ks) (below dir ls) = List.compareLex Ord.compare ks ls := by
  rw [Path.compare, parts_below hdir hks, parts_below hdir hls, compareParts_append,
    compareParts_names]

end Path

end SinkAudit
